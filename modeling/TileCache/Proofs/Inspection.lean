import TileCache.Proofs.TileRequests
set_option autoImplicit false

/-!
# Computations that only look

Probes, fetches and listings leave the bucket as it is. A computation that makes no other requests
leaves it so whatever the plan, and there is nothing in its trace that could have changed it. Of the
calls of a store those that read a tile or a value of metadata are such computations, and they have
nothing to announce.

## Main definitions

* `TileCache.Request.isRead` — whether a request only looks.
* `TileCache.Session.Inspected` — a session after requests that only look.
* `TileCache.RequestM.Inspects` — a computation that makes no other requests.
* `TileCache.Call.isRead` — whether a call only looks.

## Main results

* `TileCache.RequestM.Inspects.bind` — two such computations in sequence.
* `TileCache.Call.inspects_requests` — the requests of a call that only looks.
* `TileCache.Call.deliveries_of_isRead` — nobody hears of such a call.
-/

namespace TileCache

/-- Whether a request only looks. -/
def Request.isRead : Request → Bool
  | head _ => true
  | get _ => true
  | list _ => true
  | put .. => false
  | delete _ => false
  | batch _ => false

/-- A session after requests that only look: the bucket is as it was, and the trace has grown by
such requests alone. -/
structure Session.Inspected (s s' : Session) : Prop where
  bucket_eq : s'.bucket = s.bucket
  trace_eq : ∃ requests, s'.trace = s.trace ++ requests ∧ ∀ r ∈ requests, r.isRead = true

namespace Session.Inspected

variable {s s' s'' : Session}

/-- There need be no request. -/
lemma refl (s : Session) : s.Inspected s :=
  ⟨rfl, [], (List.append_nil _).symm, by simp⟩

/-- One may look twice. -/
lemma trans (h : s.Inspected s') (h' : s'.Inspected s'') : s.Inspected s'' := by
  obtain ⟨first, htrace, hfirst⟩ := h.trace_eq
  obtain ⟨second, htrace', hsecond⟩ := h'.trace_eq
  refine ⟨h'.bucket_eq.trans h.bucket_eq, first ++ second, ?_, fun r hr => ?_⟩
  · rw [htrace', htrace, List.append_assoc]
  · rcases List.mem_append.1 hr with hr | hr
    · exact hfirst r hr
    · exact hsecond r hr

/-- One request that only looks. -/
lemma of_sent {r : Request} (h : r.isRead = true) (s : Session) : s.Inspected (s.sent r) :=
  ⟨rfl, [r], rfl, by simpa using h⟩

end Session.Inspected

namespace RequestM

variable {α β : Type} {m : RequestM α} {f : α → RequestM β}

/-- The computation makes no requests but those that only look, whatever becomes of them. -/
def Inspects (m : RequestM α) : Prop :=
  ∀ p (s : Session), s.Inspected (m.runUnder p s).2

/-- **Two computations in sequence** only look if both do. -/
lemma Inspects.bind (hm : Inspects m) (hf : ∀ a, Inspects (f a)) : Inspects (m >>= f) := by
  intro p s
  have hfirst := hm p s
  rw [runUnder_bind]
  rcases hrun : m.runUnder p s with ⟨e | a, s₁⟩
  · rwa [hrun] at hfirst
  · rw [hrun] at hfirst
    exact hfirst.trans (hf a p s₁)

/-- A value is made of another without a request. -/
lemma Inspects.map {g : α → β} (h : Inspects m) : Inspects (g <$> m) := by
  intro p s
  rw [runUnder_map]
  exact h p s

/-- A value alone makes no request. -/
lemma inspects_pure (a : α) : Inspects (pure a) :=
  fun _ s => .refl s

/-- A result known beforehand makes no request. -/
lemma inspects_ofExcept (x : Except StorageError α) : Inspects (MonadExcept.ofExcept x) := by
  intro p s
  rw [runUnder_ofExcept]
  exact .refl s

end RequestM

namespace Backend

open RequestM

variable {key base : Key}

/-- A fetch only looks. -/
lemma inspects_get : Inspects (get key) := by
  intro p s
  rw [runUnder_get]
  exact .of_sent rfl s

/-- A listing only looks. -/
lemma inspects_list : Inspects (list base) := by
  intro p s
  rw [runUnder_list]
  exact .of_sent rfl s

/-- To count is no request. -/
lemma inspects_count (f : Counters → Counters) : Inspects (count f) := by
  intro p s
  rw [runUnder_count]
  exact ⟨rfl, [], (List.append_nil _).symm, by simp⟩

end Backend

namespace Store

open RequestM

variable (s : Store)

/-- To read a tile is to look. -/
lemma inspects_readTile (t : Tile) : Inspects (readTile t s) := by
  unfold readTile
  rw [← checkedTile_bind]
  refine (inspects_ofExcept _).bind fun key => Backend.inspects_get.bind fun object => ?_
  cases object <;> exact (Backend.inspects_count _).bind fun _ => inspects_pure _

/-- To read a value of metadata is to look. -/
lemma inspects_readMetadata (n name : String) : Inspects (readMetadata n name s) := by
  have hload : Inspects (s.loadProperties n) := by
    unfold loadProperties
    refine (inspects_ofExcept _).bind fun key => Backend.inspects_get.bind fun object => ?_
    cases object with
    | none => exact inspects_pure _
    | some o => exact inspects_ofExcept _
  unfold readMetadata
  rw [requireLive_eq]
  exact (inspects_ofExcept _).bind fun _ => hload.bind fun properties => inspects_pure _

/-- To check the access is to look. -/
lemma inspects_probeRoot : Inspects s.probeRoot := by
  unfold probeRoot
  rw [requireLive_eq]
  exact (inspects_ofExcept _).bind fun _ => Backend.inspects_list.bind fun listing =>
    (inspects_ofExcept _).bind fun _ => inspects_pure ()

end Store

namespace Call

open RequestM

/-- Whether a call only looks. -/
def isRead : Call → Bool
  | get _ => true
  | getMetadata .. => true
  | _ => false

/-- **The requests of a call that only looks** only look. -/
lemma inspects_requests (s : Store) {call : Call} (h : call.isRead = true) :
    Inspects (call.requests s) := by
  cases call with
  | get t => exact (s.inspects_readTile t).map
  | getMetadata n name => exact (s.inspects_readMetadata n name).map
  | _ => cases h

/-- A call that only looks has nothing to announce. -/
lemma event?_of_isRead {s : Store} {call : Call} (h : call.isRead = true) {p : Plan}
    {σ σ' : Session} {x : Except StorageError Finding}
    (hrun : (call.requests s).runUnder p σ = (x, σ')) : event? x = none := by
  cases call with
  | get t =>
    obtain ⟨_ | _ | o, -, rfl⟩ := exists_of_runUnder_map hrun <;> rfl
  | getMetadata n name =>
    obtain ⟨_ | value, -, rfl⟩ := exists_of_runUnder_map hrun <;> rfl
  | _ => cases h

variable {c : Context} {w : World} {call : Call}

/-- A call that only looks leaves a session after such requests. -/
lemma inspected_of_isRead (h : call.isRead = true) :
    w.session.Inspected (call.operation.perform.runIn c w).2.session := by
  rw [session_perform]
  exact inspects_requests w.store h c.plan w.session

/-- **Nobody hears of a call that only looks**, and the store is as it was. -/
lemma deliveries_of_isRead (h : call.isRead = true) :
    (call.operation.perform.runIn c w).2.deliveries = w.deliveries := by
  cases hrun : (call.requests w.store).runUnder c.plan w.session with
  | mk x session =>
    rw [runIn_perform hrun, event?_of_isRead h hrun]
    rfl

end Call

end TileCache
