import TileCache.Proofs.LayerDeletion
import TileCache.Proofs.TileRequests
set_option autoImplicit false

/-!
# Calls about one object are atomic on error

A call about a single object makes at most two requests. The first only looks, and only the last
changes something, which it does not if it is refused; what is counted is counted behind it. So a
call that fails, at whichever request, leaves nothing behind but its trace.

## Main definitions

* `TileCache.Session.Untouched` — the same bucket and the same counters.
* `TileCache.RequestM.Looks`, `RequestM.Atomic`, `RequestM.Succeeds` — computations that change
  nothing, that change nothing if they fail, and that do not fail.
* `TileCache.Call.isSingle` — whether a call is about one object.
* `TileCache.World.garbled` — a bucket with metadata that cannot be read.

## Main results

* `TileCache.RequestM.Looks.bind_atomic`, `RequestM.Atomic.bind_succeeds` — how computations that
  change nothing if they fail are put together.
* `TileCache.Call.atomic_requests` — the requests of a call about one object are such ones.
* `TileCache.Call.failed_call_changes_nothing` — a call about one object that fails leaves all as it
  was.
-/

namespace TileCache

/-- The bucket and the counters are as they were. -/
structure Session.Untouched (s s' : Session) : Prop where
  bucket_eq : s'.bucket = s.bucket
  counters_eq : s'.counters = s.counters

namespace Session

variable {s s' s'' : Session}

/-- Nothing need have happened. -/
lemma Untouched.refl (s : Session) : s.Untouched s :=
  ⟨rfl, rfl⟩

/-- What is untouched twice is untouched. -/
lemma Untouched.trans (h : s.Untouched s') (h' : s'.Untouched s'') : s.Untouched s'' :=
  ⟨h'.bucket_eq.trans h.bucket_eq, h'.counters_eq.trans h.counters_eq⟩

/-- A request on its way touches nothing. -/
lemma untouched_sent (s : Session) (r : Request) : s.Untouched (s.sent r) :=
  ⟨rfl, rfl⟩

end Session

namespace RequestM

variable {α β : Type} {m : RequestM α} {f : α → RequestM β}

/-- The computation changes neither the bucket nor the counters, whatever becomes of its requests.
-/
def Looks (m : RequestM α) : Prop :=
  ∀ p (s : Session), s.Untouched (m.runUnder p s).2

/-- If the computation fails, it has changed neither the bucket nor the counters. -/
def Atomic (m : RequestM α) : Prop :=
  ∀ p (s : Session) e s', m.runUnder p s = (.error e, s') → s.Untouched s'

/-- The computation does not fail, whatever becomes of its requests. -/
def Succeeds (m : RequestM α) : Prop :=
  ∀ p (s : Session), ∃ a s', m.runUnder p s = (.ok a, s')

/-! ## Putting computations together -/

/-- What changes nothing changes nothing if it fails. -/
lemma Looks.atomic (h : Looks m) : Atomic m := by
  intro p s e s' hrun
  have := h p s
  rwa [hrun] at this

/-- What does not fail changes nothing if it fails. -/
lemma Succeeds.atomic (h : Succeeds m) : Atomic m := by
  intro p s e s' hrun
  obtain ⟨a, s'', hok⟩ := h p s
  rw [hok] at hrun
  cases hrun

/-- Two computations that do not fail do not fail one after the other. -/
lemma Succeeds.bind (hm : Succeeds m) (hf : ∀ a, Succeeds (f a)) : Succeeds (m >>= f) := by
  intro p s
  obtain ⟨a, s₁, hrun⟩ := hm p s
  obtain ⟨b, s₂, hrun'⟩ := hf a p s₁
  exact ⟨b, s₂, (runUnder_bind_ok hrun).trans hrun'⟩

/-- Two computations that change nothing may follow each other. -/
lemma Looks.bind (hm : Looks m) (hf : ∀ a, Looks (f a)) : Looks (m >>= f) := by
  intro p s
  have hfirst := hm p s
  rw [runUnder_bind]
  rcases hrun : m.runUnder p s with ⟨e | a, s₁⟩
  · rwa [hrun] at hfirst
  · rw [hrun] at hfirst
    exact hfirst.trans (hf a p s₁)

/-- **First look, then act.** Behind a computation that changes nothing there may be one that
changes nothing if it fails. -/
lemma Looks.bind_atomic (hm : Looks m) (hf : ∀ a, Atomic (f a)) : Atomic (m >>= f) := by
  intro p s e s' hrun
  have hfirst := hm p s
  rw [runUnder_bind] at hrun
  rcases hm' : m.runUnder p s with ⟨e' | a, s₁⟩
  · rw [hm'] at hrun hfirst
    cases hrun
    exact hfirst
  · rw [hm'] at hrun hfirst
    exact hfirst.trans (hf a p s₁ e s' hrun)

/-- **First act, then note it.** Behind a computation that changes nothing if it fails there may be
one that does not fail. -/
lemma Atomic.bind_succeeds (hm : Atomic m) (hf : ∀ a, Succeeds (f a)) : Atomic (m >>= f) := by
  intro p s e s' hrun
  rw [runUnder_bind] at hrun
  rcases hm' : m.runUnder p s with ⟨e' | a, s₁⟩
  · rw [hm'] at hrun
    cases hrun
    exact hm p s e s' hm'
  · rw [hm'] at hrun
    obtain ⟨b, s₂, hok⟩ := hf a p s₁
    simp only [hok, Prod.mk.injEq, reduceCtorEq, false_and] at hrun

/-! ## Single steps -/

/-- A value alone changes nothing. -/
lemma looks_pure (a : α) : Looks (pure a) :=
  fun _ s => .refl s

/-- A result known beforehand changes nothing. -/
lemma looks_ofExcept (x : Except StorageError α) : Looks (MonadExcept.ofExcept x) := by
  intro p s
  rw [runUnder_ofExcept]
  exact .refl s

/-- A value alone does not fail. -/
lemma succeeds_pure (a : α) : Succeeds (pure a) :=
  fun _ s => ⟨a, s, rfl⟩

/-- A value made of another fails just if that one does. -/
lemma Atomic.map {g : α → β} (h : Atomic m) : Atomic (g <$> m) := by
  intro p s e s' hrun
  obtain ⟨y, hy, hmap⟩ := exists_of_runUnder_map hrun
  cases y with
  | error e' => exact h p s e' s' hy
  | ok a => cases hmap

end RequestM

namespace Backend

open RequestM

variable {key : Key}

/-- A probe changes nothing. -/
lemma looks_head : Looks (head key) := by
  intro p s
  rw [runUnder_head]
  exact s.untouched_sent _

/-- A fetch changes nothing. -/
lemma looks_get : Looks (get key) := by
  intro p s
  rw [runUnder_get]
  exact s.untouched_sent _

/-- A write that is refused changes nothing. -/
lemma atomic_put (data : Octets) (contentType : String) : Atomic (put key data contentType) := by
  intro p s e s' hrun
  rw [runUnder_put] at hrun
  cases hplan : p.put s.trace key with
  | none => simp [hplan] at hrun
  | some error =>
    simp only [hplan, Prod.mk.injEq] at hrun
    rw [← hrun.2]
    exact s.untouched_sent _

/-- A deletion that is refused changes nothing. -/
lemma atomic_delete : Atomic (delete key) := by
  intro p s e s' hrun
  rw [runUnder_delete] at hrun
  cases hplan : p.delete s.trace key with
  | none => simp [hplan] at hrun
  | some error =>
    simp only [hplan, Prod.mk.injEq] at hrun
    rw [← hrun.2]
    exact s.untouched_sent _

/-- To count does not fail. -/
lemma succeeds_count (g : Counters → Counters) : Succeeds (count g) :=
  fun _ _ => ⟨_, _, runUnder_count g⟩

end Backend

/-! ## Operations on one object -/

namespace Store

open RequestM

variable (s : Store)

/-- Storing a tile that fails changes nothing. -/
lemma atomic_writeTile (t : Tile) : Atomic (writeTile t s) := by
  have hwrite (blob : Octets) (key : Key) : Atomic (writeTile.writeBlob t key blob) :=
    (Backend.atomic_put blob t.format).bind_succeeds fun _ => Backend.succeeds_count _
  rw [writeTile_eq]
  refine (looks_ofExcept _).bind_atomic fun x => ?_
  cases s.listeners.isEmpty with
  | true => exact (hwrite x.1 x.2).bind_succeeds fun _ => succeeds_pure none
  | false =>
    exact Backend.looks_head.bind_atomic fun info =>
      (hwrite x.1 x.2).bind_succeeds fun _ => succeeds_pure _

/-- Reading a tile that fails changes nothing. -/
lemma atomic_readTile (t : Tile) : Atomic (readTile t s) := by
  unfold readTile
  rw [← checkedTile_bind]
  refine (looks_ofExcept _).bind_atomic fun key => Backend.looks_get.bind_atomic fun object => ?_
  cases object <;>
    exact ((Backend.succeeds_count _).bind fun _ => succeeds_pure _).atomic

/-- Removing a tile that fails changes nothing. -/
lemma atomic_eraseTile (t : Tile) : Atomic (eraseTile t s) := by
  unfold eraseTile
  rw [← checkedTile_bind]
  refine (looks_ofExcept _).bind_atomic fun key => Backend.looks_head.bind_atomic fun info => ?_
  cases info with
  | none => exact (looks_pure none).atomic
  | some info =>
    exact Backend.atomic_delete.bind_succeeds fun _ =>
      (Backend.succeeds_count _).bind fun _ => succeeds_pure _

/-- Loading metadata changes nothing. -/
lemma looks_loadProperties (n : String) : Looks (s.loadProperties n) := by
  unfold loadProperties
  refine (looks_ofExcept _).bind fun key => Backend.looks_get.bind fun object => ?_
  cases object with
  | none => exact looks_pure _
  | some o => exact looks_ofExcept _

/-- Reading metadata changes nothing. -/
lemma looks_readMetadata (n name : String) : Looks (readMetadata n name s) := by
  unfold readMetadata
  rw [requireLive_eq]
  exact (looks_ofExcept _).bind fun _ =>
    (s.looks_loadProperties n).bind fun properties => looks_pure _

/-- Writing metadata that fails changes nothing. -/
lemma atomic_writeMetadata (n name value : String) : Atomic (writeMetadata n name value s) := by
  unfold writeMetadata
  rw [requireLive_eq]
  exact (looks_ofExcept _).bind_atomic fun _ =>
    (s.looks_loadProperties n).bind_atomic fun properties =>
      (looks_ofExcept _).bind_atomic fun place => Backend.atomic_put _ _

section Metadata

variable {s} {n : String} {key : Key} {p : Plan} {σ σ' : Session}

/-- What is loaded is what is kept, unless the fetch is refused as if there were no metadata. -/
lemma properties_of_loadProperties {m : Properties} (hkey : s.layout.metadata n = .ok key)
    (hhonest : ∀ error, p.get σ.trace key = .refused error → error.isNotFound = false)
    (h : (s.loadProperties n).runUnder p σ = (.ok m, σ')) : σ.bucket.properties key = .ok m := by
  unfold loadProperties at h
  rw [hkey, ofExcept_ok, pure_bind] at h
  obtain ⟨object, σ₁, hget, hread⟩ := runUnder_bind_eq_ok_iff.1 h
  obtain rfl := Backend.eq_find?_of_get hhonest hget
  unfold Bucket.properties
  cases hfind : σ.bucket.find? key with
  | none =>
    rw [hfind, runUnder_pure, Prod.mk.injEq] at hread
    exact hread.1
  | some o =>
    rw [hfind, runUnder_ofExcept, Prod.mk.injEq] at hread
    exact hread.1

/-- **Metadata that cannot be read is not overwritten**: to write a value fails, unless the fetch is
refused as if there were no metadata. -/
lemma writeMetadata_of_unreadable (name value : String) {o : StoredObject} {e : StorageError}
    (hkey : s.layout.metadata n = .ok key) (hfind : σ.bucket.find? key = some o)
    (hdecode : Properties.decode o.data = .error e)
    (hhonest : ∀ error, p.get σ.trace key = .refused error → error.isNotFound = false) :
    ∃ e' σ', (writeMetadata n name value s).runUnder p σ = (.error e', σ') := by
  cases hrun : (writeMetadata n name value s).runUnder p σ with
  | mk x σ' =>
    cases x with
    | error e' => exact ⟨e', σ', rfl⟩
    | ok u =>
      -- It cannot have succeeded, for then the metadata was fetched and read.
      unfold writeMetadata at hrun
      rw [requireLive_eq, runUnder_ofExcept_bind_eq_ok_iff] at hrun
      obtain ⟨_, -, hrun⟩ := hrun
      obtain ⟨m, σ₁, hload, -⟩ := runUnder_bind_eq_ok_iff.1 hrun
      have hread := properties_of_loadProperties hkey hhonest hload
      simp only [Bucket.properties, hfind, hdecode, reduceCtorEq] at hread

end Metadata

end Store

namespace Call

open RequestM Store

/-- Whether a call is about a single object, and not about all that is below a key. -/
def isSingle : Call → Bool
  | deleteLayer _ => false
  | deleteGridset _ _ => false
  | _ => true

/-- **A call about one object that fails changes nothing**, whichever of its requests fails. -/
lemma atomic_requests (s : Store) {call : Call} (h : call.isSingle = true) :
    (call.requests s).Atomic := by
  cases call with
  | put t => exact (s.atomic_writeTile t).map
  | get t => exact (s.atomic_readTile t).map
  | deleteTile t => exact (s.atomic_eraseTile t).map
  | deleteLayer n => cases h
  | deleteGridset n g => cases h
  | getMetadata n name => exact (s.looks_readMetadata n name).atomic.map
  | putMetadata n name value => exact (s.atomic_writeMetadata n name value).map

/-- A call about one object that comes to the answer "no" has left the bucket as it was. -/
lemma bucket_of_requests_false {s : Store} {call : Call} (hsingle : call.isSingle = true) {p : Plan}
    {σ σ' : Session} {f : Finding} (h : (call.requests s).runUnder p σ = (.ok f, σ'))
    (hno : f.answer = .truth false) : σ'.bucket = σ.bucket := by
  cases call with
  | get t =>
    obtain ⟨_ | o, hrun, hf⟩ := exists_of_runUnder_map h <;> cases hf
    obtain ⟨key, -, -, hbucket⟩ := exists_of_readTile hrun
    exact hbucket
  | deleteTile t =>
    obtain ⟨_ | size, hrun, hf⟩ := exists_of_runUnder_map h <;> cases hf
    obtain ⟨key, -, herased⟩ := tileErased_of_ok hrun
    cases herased with
    | absent probe => rw [Backend.eq_sent_of_head probe, Session.bucket_sent]
    | removed probe removal => cases hno
  | put t =>
    obtain ⟨_ | event, -, hf⟩ := exists_of_runUnder_map h <;> cases hf
    cases hno
  | getMetadata n name =>
    obtain ⟨_ | value, -, hf⟩ := exists_of_runUnder_map h <;> cases hf
    cases hno
  | putMetadata n name value =>
    obtain ⟨_ | u, -, hf⟩ := exists_of_runUnder_map h <;> cases hf
    cases hno
  | deleteLayer n => cases hsingle
  | deleteGridset n g => cases hsingle

/-- **A call about one object that fails leaves all as it was.** Let a tile be stored, read or
removed, or a value of metadata be read or written, while requests fail in any way, on any bucket
and by any store, shut down or not. If the call fails, then the bucket and the counters are as
before, and so is the store with its listeners; nobody hears of anything; and a tile that was given
to be changed is in all its fields what it was. If a tile is read or removed and the answer is that
there is none, then the tile and the bucket are as before. And metadata that cannot be read is never
overwritten: to write a value fails, provided that the fetch is not answered as if there were no
metadata at all.

**Proof sketch.** A call is its requests and then an announcement, which there is none of if the
requests fail. Of these only the last changes something, and what is counted is counted behind
it. -/
theorem failed_call_changes_nothing (ctx : Context) (w : World) (call : Call)
    (hsingle : call.isSingle = true) :
    let reply := (call.operation.perform.runIn ctx w).1
    let after := (call.operation.perform.runIn ctx w).2
    (∀ e, reply.completion = .failed e →
      after.session.bucket = w.session.bucket ∧ after.session.counters = w.session.counters ∧
      after.store = w.store ∧ after.deliveries = w.deliveries ∧ reply.tile = call.given) ∧
    (reply.completion = .returned (.truth false) →
      reply.tile = call.given ∧ after.session.bucket = w.session.bucket) ∧
    ∀ n name value metadata o e, call = .putMetadata n name value →
      w.store.layout.metadata n = .ok metadata →
      w.session.bucket.find? metadata = some o → Properties.decode o.data = .error e →
      (∀ error, ctx.plan.get w.session.trace metadata = .refused error →
        error.isNotFound = false) →
      (∃ e', reply.completion = .failed e') ∧ after.session.bucket = w.session.bucket := by
  intro reply after
  have hfailed : ∀ e, reply.completion = .failed e →
      after.session.bucket = w.session.bucket ∧ after.session.counters = w.session.counters ∧
      after.store = w.store ∧ after.deliveries = w.deliveries ∧ reply.tile = call.given := by
    intro e he
    obtain ⟨session, hrun, hperform⟩ := of_failed he
    have huntouched := call.atomic_requests w.store hsingle ctx.plan w.session e session hrun
    have hreply : reply = { completion := .failed e, tile := call.given } :=
      congrArg Prod.fst hperform
    have hafter : after = { w with session } := congrArg Prod.snd hperform
    rw [hreply, hafter]
    exact ⟨huntouched.bucket_eq, huntouched.counters_eq, rfl, rfl, rfl⟩
  refine ⟨hfailed, fun hno => ?_, ?_⟩
  · obtain ⟨f, session, hrun, hanswer, htile, -, hsession⟩ := of_returned hno
    exact ⟨htile.trans (finding_of_requests_false hrun hanswer).1,
      (congrArg Session.bucket hsession).trans (bucket_of_requests_false hsingle hrun hanswer)⟩
  · rintro n name value metadata o e rfl hmetadata hfind hdecode hhonest
    obtain ⟨e', session, hwrite⟩ :=
      Store.writeMetadata_of_unreadable name value hmetadata hfind hdecode hhonest
    have hreply : reply.completion = .failed e' := by
      have hrun : (requests w.store (.putMetadata n name value)).runUnder ctx.plan w.session =
          (.error e', session) := by
        rw [requests, runUnder_map, hwrite]
        rfl
      simp only [reply, runIn_perform hrun]
      rfl
    exact ⟨⟨e', hreply⟩, (hfailed e' hreply).1⟩

end Call

/-- A store over a bucket with one tile of the layer `roads` and metadata of it that is not text. -/
def World.garbled : World :=
  let metadata := Key.ofText "gwc/roads/metadata.properties"
  let session := World.oneRoad.session
  { World.oneRoad with session := { session with
      bucket := session.bucket.put metadata [0x66, 0xff] "text/plain" } }

/-- Metadata that is not text is to be given a value, and the only tile is to be removed while
deletions are refused. Both fail, and leave the bucket as it was. -/
theorem Call.failed_call_on_garbled_metadata :
    let w := World.garbled
    let title := Call.putMetadata "roads" "title" "Roads"
    let tile : Tile := { layer := "roads", gridset := "EPSG:4326", coord := ⟨0, 0, 0⟩,
                         format := "image/png" }
    ((∃ e, (title.operation.perform.runIn {} w).1.completion = .failed e) ∧
      (title.operation.perform.runIn {} w).2.session.bucket = w.session.bucket) ∧
    let removal := Call.deleteTile tile
    (∃ e, (removal.operation.perform.runIn .deleteDenied w).1.completion = .failed e) ∧
      (removal.operation.perform.runIn .deleteDenied w).2.session.bucket = w.session.bucket ∧
      (removal.operation.perform.runIn .deleteDenied w).1.tile = some tile := by
  intro w title tile
  have hmetadata : w.store.layout.metadata "roads" =
      .ok (Key.ofText "gwc/roads/metadata.properties") := by
    decide +kernel
  have hfind : w.session.bucket.find? (Key.ofText "gwc/roads/metadata.properties") =
      some ⟨[0x66, 0xff], "text/plain", 2⟩ := by
    decide +kernel
  have hunreadable : Properties.decode [0x66, 0xff] =
      .error (.metadata (.notUtf8 ⟨1, some 1⟩)) := by
    decide +kernel
  have hrefused : ((Call.deleteTile tile).operation.perform.runIn .deleteDenied w).1.completion =
      .failed (Backend.refusal "delete" "gwc/roads/EPSG:4326/png/default/0/0/0.png"
        (.denied "gwc/roads/EPSG:4326/png/default/0/0/0.png" "403")) := by
    decide +kernel
  obtain ⟨-, -, hunread⟩ := Call.failed_call_changes_nothing {} w title rfl
  obtain ⟨hdenied, -, -⟩ := Call.failed_call_changes_nothing .deleteDenied w (.deleteTile tile) rfl
  obtain ⟨hbucket, -, -, -, htile⟩ := hdenied _ hrefused
  have hserved : ∀ error, ({} : Context).plan.get w.session.trace
      (Key.ofText "gwc/roads/metadata.properties") = .refused error → error.isNotFound = false :=
    nofun
  exact ⟨hunread _ _ _ _ _ _ rfl hmetadata hfind hunreadable hserved,
    ⟨_, hrefused⟩, hbucket, htile⟩

end TileCache
