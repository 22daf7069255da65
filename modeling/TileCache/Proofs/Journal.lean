import TileCache.Proofs.TileRequests
set_option autoImplicit false

/-!
# The journal of a run

A run of operations, each under a plan and callbacks of its own, is written down line by line: which
operation was carried out, under which plan and on which session, what it requested, and how it
ended. Of the requests that are to change something, the plan says which are carried out. So what is
counted during a run can be compared with what was done.

A computation spares a counter if it leaves it as it was, whatever becomes of its requests. Tiles
are not counted by what removes layers and gridsets, nor the other way round, and metadata is not
counted at all.

## Main definitions

* `TileCache.Plan.carriesOut`, `TileCache.Plan.carriedOut` — which requests are carried out.
* `TileCache.JournalLine`, `TileCache.World.journal` — one operation of a run, and all of them.
* `TileCache.Counters.tiles` — the counters of single tiles.
* `TileCache.RequestM.Spares` — computations that leave counters as they were.

## Main results

* `TileCache.World.counters_afterSteps` — what every operation counts by its line is counted by the
  journal.
* `TileCache.World.trace_afterSteps` — the journal holds all requests of a run.
* `TileCache.Store.spares_eraseLayer`, `spares_eraseGridset`, `spares_readMetadata`,
  `spares_writeMetadata` — what operations spare.
-/

namespace TileCache

/-! ## Requests that are carried out -/

namespace Request

/-- Whether a request writes an object. -/
def isPut : Request → Bool
  | put .. => true
  | _ => false

/-- The keys that a request deletes at once. -/
def batch? : Request → Option (List Key)
  | batch keys => some keys
  | _ => none

end Request

namespace Plan

/-- Whether a request that is to change something is carried out, sent after the requests in `past`.
A deletion is so too if there is nothing to delete. -/
def carriesOut (p : Plan) (past : List Request) : Request → Bool
  | .put key _ _ => (p.put past key).isNone
  | .delete key => (p.delete past key).all BucketError.isNotFound
  | .batch keys => (p.batchError past keys).isNone
  | _ => false

/-- Those of some requests that are carried out, sent one after the other, the first after the
requests in `past`. -/
def carriedOut (p : Plan) (past : List Request) : List Request → List Request
  | [] => []
  | r :: rest =>
    (if p.carriesOut past r then [r] else []) ++ p.carriedOut (past ++ [r]) rest

/-- Requests in two parts are carried out one part after the other. -/
lemma carriedOut_append (p : Plan) (past requests later : List Request) :
    p.carriedOut past (requests ++ later) =
      p.carriedOut past requests ++ p.carriedOut (past ++ requests) later := by
  induction requests generalizing past with
  | nil => simp [carriedOut]
  | cons r rest ih => simp [carriedOut, ih]

end Plan

/-! ## Runs and their journals -/

/-- One operation of a run: the plan that it was carried out under, the session before it, its
requests, and how it ended. -/
structure JournalLine where
  operation : Operation
  plan : Plan
  before : Session
  requests : List Request
  completion : Completion Answer

/-- The line of one operation. -/
def Operation.line (c : Context) (w : World) (o : Operation) : JournalLine where
  operation := o
  plan := c.plan
  before := w.session
  requests := (o.perform.runIn c w).2.session.trace.drop w.session.trace.length
  completion := (o.perform.runIn c w).1.completion

/-- The requests of an operation that are carried out. -/
def JournalLine.carriedOut (l : JournalLine) : List Request :=
  l.plan.carriedOut l.before.trace l.requests

namespace World

/-- The world after a run of operations, each with its context. -/
def afterSteps (w : World) : List (Context × Operation) → World
  | [] => w
  | (c, o) :: rest => afterSteps (o.perform.runIn c w).2 rest

/-- The journal of a run. -/
def journal (w : World) : List (Context × Operation) → List JournalLine
  | [] => []
  | (c, o) :: rest => o.line c w :: journal (o.perform.runIn c w).2 rest

/-- **What every operation counts by its line is counted by the journal**: if every operation
changes what `view` shows of the counters by `note`, given its line, then a run changes it by all
lines of its journal, one after the other. -/
lemma counters_afterSteps {δ : Type} {view : Counters → δ} {note : δ → JournalLine → δ}
    (h : ∀ (c : Context) (w : World) (o : Operation),
      view (o.perform.runIn c w).2.session.counters = note (view w.session.counters) (o.line c w))
    (w : World) (steps : List (Context × Operation)) :
    view (w.afterSteps steps).session.counters =
      (w.journal steps).foldl note (view w.session.counters) := by
  induction steps generalizing w with
  | nil => rfl
  | cons step rest ih =>
    obtain ⟨c, o⟩ := step
    rw [afterSteps, ih, h c w o, journal, List.foldl_cons]

end World

/-! ## What computations spare -/

/-- The counters of single tiles; the others are set to zero. -/
def Counters.tiles (c : Counters) : Counters :=
  { c with bulkDeleted := 0, batchFailures := 0 }

namespace RequestM

variable {α β γ : Type} {m : RequestM α} {f : α → RequestM β} {view : Counters → γ}

/-- The computation adds to the trace, and leaves what `view` shows of the counters as it was,
whatever becomes of its requests. -/
def Spares (view : Counters → γ) (m : RequestM α) : Prop :=
  ∀ p (s : Session), s.trace <+: (m.runUnder p s).2.trace ∧
    view (m.runUnder p s).2.counters = view s.counters

/-- What spares all counters spares each of them. -/
lemma Spares.of_id (h : Spares id m) : Spares view m :=
  fun p s => ⟨(h p s).1, congrArg view (h p s).2⟩

/-- Two computations spare what both spare. -/
lemma Spares.bind (hm : Spares view m) (hf : ∀ a, Spares view (f a)) : Spares view (m >>= f) := by
  intro p s
  have hfirst := hm p s
  rw [runUnder_bind]
  rcases hrun : m.runUnder p s with ⟨e | a, s₁⟩
  · rwa [hrun] at hfirst
  · rw [hrun] at hfirst
    obtain ⟨htrace, hview⟩ := hf a p s₁
    exact ⟨hfirst.1.trans htrace, hview.trans hfirst.2⟩

/-- A value made of another spares what that one spares. -/
lemma Spares.map {g : α → β} (h : Spares view m) : Spares view (g <$> m) := by
  intro p s
  rw [runUnder_map]
  exact h p s

/-- A value alone spares all counters. -/
lemma spares_pure (a : α) : Spares view (pure a) :=
  fun _ _ => ⟨List.prefix_rfl, rfl⟩

/-- A result known beforehand spares all counters. -/
lemma spares_ofExcept (x : Except StorageError α) : Spares view (MonadExcept.ofExcept x) := by
  intro p s
  rw [runUnder_ofExcept]
  exact ⟨List.prefix_rfl, rfl⟩

/-- A request that is not counted spares all counters. -/
lemma spares_of_sent {r : Request}
    (h : ∀ p (s : Session), (m.runUnder p s).2.trace = s.trace ++ [r] ∧
      (m.runUnder p s).2.counters = s.counters) : Spares view m := by
  intro p s
  obtain ⟨htrace, hcounters⟩ := h p s
  rw [htrace, hcounters]
  exact ⟨List.prefix_append _ _, rfl⟩

end RequestM

namespace Backend

open RequestM

variable {γ : Type} {view : Counters → γ} {key base : Key}

/-- A probe spares all counters. -/
lemma spares_head : Spares view (head key) :=
  spares_of_sent fun p s => by rw [runUnder_head]; exact ⟨rfl, rfl⟩

/-- A fetch spares all counters. -/
lemma spares_get : Spares view (get key) :=
  spares_of_sent fun p s => by rw [runUnder_get]; exact ⟨rfl, rfl⟩

/-- A write spares all counters. -/
lemma spares_put (data : Octets) (contentType : String) : Spares view (put key data contentType) :=
  spares_of_sent fun p s => by
    rw [runUnder_put]
    cases p.put s.trace key <;> exact ⟨rfl, rfl⟩

/-- A deletion spares all counters. -/
lemma spares_delete : Spares view (delete key) :=
  spares_of_sent fun p s => by
    rw [runUnder_delete]
    cases p.delete s.trace key <;> exact ⟨rfl, rfl⟩

/-- A listing spares all counters. -/
lemma spares_list : Spares view (list base) :=
  spares_of_sent fun p s => by rw [runUnder_list]; exact ⟨rfl, rfl⟩

/-- To count spares the other counters. -/
lemma spares_count {g : Counters → Counters} (h : ∀ c, view (g c) = view c) :
    Spares view (count g) := by
  intro p s
  rw [runUnder_count]
  exact ⟨List.prefix_rfl, h s.counters⟩

/-- A batch spares all counters but that of failures. -/
lemma spares_deleteBatch (h : ∀ c n, view { c with batchFailures := n } = view c)
    (keys : List Key) : Spares view (deleteBatch keys) := by
  rcases eq_or_ne keys [] with rfl | hkeys
  · exact spares_pure ()
  · intro p s
    rw [runUnder_deleteBatch hkeys]
    exact ⟨List.prefix_append _ _, h s.counters _⟩

end Backend

/-- Batches one after the other spare all counters but that of failures. -/
lemma BulkDelete.spares_submit {γ : Type} {view : Counters → γ}
    (h : ∀ c n, view { c with batchFailures := n } = view c) (pages : List (List Entry)) :
    ∀ submitted, (submit submitted pages).Spares view := by
  induction pages with
  | nil => exact fun submitted => RequestM.spares_pure submitted
  | cons page rest ih =>
    intro submitted
    rw [submit]
    split_ifs
    · exact ih submitted
    · exact (Backend.spares_deleteBatch h _).bind fun _ => ih _

/-- A bulk deletion spares the counters of tiles. -/
lemma BulkDelete.spares_run (base : Key) (size : BatchSize) : (run base size).Spares Counters.tiles := by
  unfold run
  refine Backend.spares_list.bind fun listing =>
    (spares_submit (fun c n => rfl) _ 0).bind fun submitted => ?_
  cases listing.failure with
  | some error => exact RequestM.spares_ofExcept (.error error)
  | none => exact (Backend.spares_count fun c => by rfl).bind fun _ => RequestM.spares_pure submitted

/-! ## What operations spare -/

namespace Store

open RequestM

variable (s : Store)

/-- Storing a tile spares the counter of bulk deletions. -/
lemma spares_writeTile (t : Tile) : (writeTile t s).Spares Counters.bulkDeleted := by
  have hwrite (blob : Octets) (key : Key) :
      (writeTile.writeBlob t key blob).Spares Counters.bulkDeleted :=
    (Backend.spares_put blob t.format).bind fun _ => Backend.spares_count fun c => by rfl
  rw [writeTile_eq]
  refine (spares_ofExcept _).bind fun x => ?_
  cases s.listeners.isEmpty with
  | true => exact (hwrite x.1 x.2).bind fun _ => spares_pure none
  | false => exact Backend.spares_head.bind fun info => (hwrite x.1 x.2).bind fun _ => spares_pure _

/-- Reading a tile spares the counter of bulk deletions. -/
lemma spares_readTile (t : Tile) : (readTile t s).Spares Counters.bulkDeleted := by
  unfold readTile
  rw [← checkedTile_bind]
  refine (spares_ofExcept _).bind fun key => Backend.spares_get.bind fun object => ?_
  cases object <;> exact (Backend.spares_count fun c => by rfl).bind fun _ => spares_pure _

/-- Removing a tile spares the counter of bulk deletions. -/
lemma spares_eraseTile (t : Tile) : (eraseTile t s).Spares Counters.bulkDeleted := by
  unfold eraseTile
  rw [← checkedTile_bind]
  refine (spares_ofExcept _).bind fun key => Backend.spares_head.bind fun info => ?_
  cases info with
  | none => exact spares_pure none
  | some info =>
    exact Backend.spares_delete.bind fun _ =>
      (Backend.spares_count fun c => by rfl).bind fun _ => spares_pure _

/-- Removing a layer spares the counters of tiles. -/
lemma spares_eraseLayer (n : String) : (eraseLayer n s).Spares Counters.tiles := by
  unfold eraseLayer
  rw [← checkedLayer_bind]
  refine (spares_ofExcept _).bind fun keys =>
    (BulkDelete.spares_run keys.1 s.batchSize).bind fun submitted => ?_
  have hend (existed : Bool) : (if existed = true then Backend.delete keys.2 >>= fun _ => pure existed
      else pure existed : RequestM Bool).Spares Counters.tiles := by
    split_ifs
    · exact Backend.spares_delete.bind fun _ => spares_pure existed
    · exact spares_pure existed
  dsimp only
  split_ifs
  · exact (spares_pure true).bind hend
  · exact Backend.spares_head.bind fun info => (spares_pure _).bind hend

/-- Removing a gridset spares the counters of tiles. -/
lemma spares_eraseGridset (n g : String) : (eraseGridset n g s).Spares Counters.tiles := by
  unfold eraseGridset
  rw [← checkedGridset_bind]
  exact (spares_ofExcept _).bind fun base =>
    (BulkDelete.spares_run base s.batchSize).bind fun submitted => spares_pure _

/-- Loading metadata spares all counters. -/
lemma spares_loadProperties (n : String) : (s.loadProperties n).Spares id := by
  unfold loadProperties
  refine (spares_ofExcept _).bind fun key => Backend.spares_get.bind fun object => ?_
  cases object with
  | none => exact spares_pure _
  | some o => exact spares_ofExcept _

/-- Reading metadata spares all counters. -/
lemma spares_readMetadata (n name : String) : (readMetadata n name s).Spares id := by
  unfold readMetadata
  rw [requireLive_eq]
  exact (spares_ofExcept _).bind fun _ =>
    (s.spares_loadProperties n).bind fun properties => spares_pure _

/-- Writing metadata spares all counters. -/
lemma spares_writeMetadata (n name value : String) : (writeMetadata n name value s).Spares id := by
  unfold writeMetadata
  rw [requireLive_eq]
  exact (spares_ofExcept _).bind fun _ => (s.spares_loadProperties n).bind fun properties =>
    (spares_ofExcept _).bind fun place => Backend.spares_put _ _

/-- Probing the root spares all counters. -/
lemma spares_probeRoot : s.probeRoot.Spares id := by
  unfold probeRoot
  rw [requireLive_eq]
  exact (spares_ofExcept _).bind fun _ => Backend.spares_list.bind fun listing =>
    (spares_ofExcept _).bind fun _ => spares_pure ()

end Store

/-! ## Sessions of a run -/

/-- The requests of a call only add to the trace. -/
lemma Call.isPrefix_trace (s : Store) (call : Call) (p : Plan) (σ : Session) :
    σ.trace <+: ((call.requests s).runUnder p σ).2.trace := by
  cases call with
  | put t => exact ((s.spares_writeTile t).map p σ).1
  | get t => exact ((s.spares_readTile t).map p σ).1
  | deleteTile t => exact ((s.spares_eraseTile t).map p σ).1
  | deleteLayer n => exact ((s.spares_eraseLayer n).map p σ).1
  | deleteGridset n g => exact ((s.spares_eraseGridset n g).map p σ).1
  | getMetadata n name =>
    exact ((s.spares_readMetadata n name).map p σ).1
  | putMetadata n name value =>
    exact ((s.spares_writeMetadata n name value).map p σ).1

/-- After a call whose requests are those of one computation, the session is the one that this
leaves. -/
lemma Call.session_of_map {α : Type} (c : Context) (w : World) (call : Call) {f : α → Finding}
    {m : RequestM α} (h : call.requests w.store = f <$> m) :
    (call.operation.perform.runIn c w).2.session = (m.runUnder c.plan w.session).2 := by
  rw [Call.session_perform, h, RequestM.runUnder_map]

namespace Operation

variable (c : Context) (w : World)

/-- After a check of the access the session is the one that its requests leave. -/
lemma session_checkAccess :
    (checkAccess.perform.runIn c w).2.session =
      (w.store.probeRoot.runUnder c.plan w.session).2 := rfl

/-- An operation is a call or a check of the access, or it makes no request and counts nothing. -/
lemma session_cases (o : Operation) :
    (∃ call : Call, call.operation = o) ∨ o = .checkAccess ∨
      ∀ c w, (o.perform.runIn c w).2.session = w.session := by
  cases o with
  | put t => exact .inl ⟨.put t, rfl⟩
  | get t => exact .inl ⟨.get t, rfl⟩
  | deleteTile t => exact .inl ⟨.deleteTile t, rfl⟩
  | deleteLayer n => exact .inl ⟨.deleteLayer n, rfl⟩
  | deleteGridset n g => exact .inl ⟨.deleteGridset n g, rfl⟩
  | getMetadata n name => exact .inl ⟨.getMetadata n name, rfl⟩
  | putMetadata n name value => exact .inl ⟨.putMetadata n name value, rfl⟩
  | checkAccess => exact .inr (.inl rfl)
  | deleteRange => exact .inr (.inr fun c w => rfl)
  | rename => exact .inr (.inr fun c w => rfl)
  | clear => exact .inr (.inr fun c w => rfl)
  | destroy => exact .inr (.inr fun c w => rfl)
  | removeListener l => exact .inr (.inr fun c w => rfl)
  | addListener l =>
    refine .inr (.inr fun c w => ?_)
    simp only [perform, StoreM.runIn_bind, StoreM.runIn_addListener, StoreM.runIn_pure]
    split_ifs <;> rfl

/-- An operation only adds to the trace. -/
lemma isPrefix_trace (o : Operation) :
    w.session.trace <+: (o.perform.runIn c w).2.session.trace := by
  rcases o.session_cases with ⟨call, rfl⟩ | rfl | hsession
  · rw [Call.session_perform]
    exact call.isPrefix_trace w.store c.plan w.session
  · rw [session_checkAccess]
    exact (w.store.spares_probeRoot c.plan w.session).1
  · simp only [hsession, List.prefix_rfl]

/-- **The line of an operation holds all its requests.** -/
lemma trace_perform (o : Operation) :
    (o.perform.runIn c w).2.session.trace = w.session.trace ++ (o.line c w).requests :=
  (List.prefix_iff_eq_append.1 (isPrefix_trace c w o)).symm

/-- What is added to the trace is what the line of an operation holds. -/
lemma requests_line {o : Operation} {requests : List Request}
    (h : (o.perform.runIn c w).2.session.trace = w.session.trace ++ requests) :
    (o.line c w).requests = requests :=
  List.append_cancel_left ((trace_perform c w o).symm.trans h)

end Operation

/-- **The journal holds all requests of a run**, in their order. -/
lemma World.trace_afterSteps (w : World) (steps : List (Context × Operation)) :
    (w.afterSteps steps).session.trace =
      w.session.trace ++ (w.journal steps).flatMap JournalLine.requests := by
  induction steps generalizing w with
  | nil => simp [afterSteps, journal]
  | cons step rest ih =>
    obtain ⟨c, o⟩ := step
    rw [afterSteps, ih, Operation.trace_perform, journal, List.flatMap_cons, List.append_assoc]

end TileCache
