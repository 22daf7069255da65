import TileCache.Proofs.Atomicity
set_option autoImplicit false

/-!
# Two runs without failing requests

If no request fails, what a computation comes to and what it leaves behind is a matter of the bucket
and the counters alone, and not of the requests made before. So two computations can be run side by
side on sessions that differ in their past: they keep in step if each request of the one is made by
the other, except for probes, of which either may make more than the other as long as it does not
matter what they find. This is what storing a tile does for its listeners.

## Main definitions

* `TileCache.RequestM.Corresponds` — results that are the same error or related values.
* `TileCache.RequestM.Lockstep` — computations that keep in step.

## Main results

* `TileCache.RequestM.Lockstep.bind` — computations in sequence keep in step.
* `TileCache.Backend.lockstep_head_left`, `TileCache.Backend.lockstep_head_right` — a probe may be
  left out.
* `TileCache.Store.lockstep_writeTile` — storing a tile, whoever listens.
* `TileCache.Call.lockstep_requests` — the requests of a call, whoever listens.
-/

namespace TileCache

namespace RequestM

variable {α α' β β' : Type} {R : α → α' → Prop} {S : β → β' → Prop}

/-- Two results are the same error, or values of which `R` holds. -/
inductive Corresponds (R : α → α' → Prop) : Except StorageError α → Except StorageError α' → Prop
  | error (e : StorageError) : Corresponds R (.error e) (.error e)
  | ok {a : α} {a' : α'} (related : R a a') : Corresponds R (.ok a) (.ok a')

/-- Two computations keep in step if no request fails: on sessions with the same bucket and the same
counters they come to corresponding results, and leave such sessions. -/
def Lockstep (R : α → α' → Prop) (m : RequestM α) (m' : RequestM α') : Prop :=
  ∀ s s' : Session, s.Untouched s' →
    Corresponds R (m.runUnder .faultless s).1 (m'.runUnder .faultless s').1 ∧
      (m.runUnder .faultless s).2.Untouched (m'.runUnder .faultless s').2

/-! ## Putting computations together -/

section Rules

variable {m : RequestM α} {m' : RequestM α'} {f : α → RequestM β} {f' : α' → RequestM β'}

/-- Related values keep in step. -/
lemma lockstep_pure {a : α} {a' : α'} (h : R a a') : Lockstep R (pure a) (pure a') :=
  fun _ _ hs => ⟨.ok h, hs⟩

/-- The same error keeps in step with itself. -/
lemma lockstep_throw (e : StorageError) : Lockstep R (throw e) (throw e) :=
  fun _ _ hs => ⟨.error e, hs⟩

/-- A result known beforehand keeps in step with itself. -/
lemma lockstep_ofExcept (x : Except StorageError α) :
    Lockstep (· = ·) (MonadExcept.ofExcept x : RequestM α) (MonadExcept.ofExcept x) := by
  cases x with
  | error e => exact lockstep_throw e
  | ok a => exact lockstep_pure rfl

/-- **Computations in sequence keep in step** if the first ones do and, for related values, the
second ones. -/
lemma Lockstep.bind (hm : Lockstep R m m') (hf : ∀ a a', R a a' → Lockstep S (f a) (f' a')) :
    Lockstep S (m >>= f) (m' >>= f') := by
  intro s s' hs
  obtain ⟨hresult, hsession⟩ := hm s s' hs
  rw [runUnder_bind, runUnder_bind]
  rcases hrun : m.runUnder .faultless s with ⟨x, s₁⟩
  rcases hrun' : m'.runUnder .faultless s' with ⟨x', s₁'⟩
  rw [hrun, hrun'] at hresult hsession
  cases hresult with
  | error e => exact ⟨.error e, hsession⟩
  | ok related => exact hf _ _ related _ _ hsession

/-- Computations in sequence keep in step with themselves. -/
lemma Lockstep.bind_self {f : α → RequestM β} {f' : α → RequestM β'} {m : RequestM α}
    (hm : Lockstep (· = ·) m m) (hf : ∀ a, Lockstep S (f a) (f' a)) :
    Lockstep S (m >>= f) (m >>= f') :=
  hm.bind fun a _ h => h ▸ hf a

/-- Values made of others keep in step as those do. -/
lemma Lockstep.map {g : α → β} {g' : α' → β'} (hm : Lockstep R m m')
    (hg : ∀ a a', R a a' → S (g a) (g' a')) : Lockstep S (g <$> m) (g' <$> m') := by
  rw [map_eq_pure_bind, map_eq_pure_bind]
  exact hm.bind fun a a' h => lockstep_pure (hg a a' h)

end Rules

end RequestM

/-! ## Single requests -/

namespace Backend

open RequestM

variable {α α' : Type} {R : α → α' → Prop} {key base : Key}

/-- A probe keeps in step with itself. -/
lemma lockstep_head : Lockstep (· = ·) (head key) (head key) := by
  intro s s' hs
  rw [runUnder_head, runUnder_head, hs.bucket_eq]
  exact ⟨.ok rfl, hs.bucket_eq, hs.counters_eq⟩

/-- **A probe may be made on one side alone** if it does not matter what it finds. -/
lemma lockstep_head_left {f : Option ObjectInfo → RequestM α} {m' : RequestM α'}
    (h : ∀ info, Lockstep R (f info) m') : Lockstep R (head key >>= f) m' := by
  intro s s' hs
  rw [runUnder_bind_ok (runUnder_head (p := .faultless))]
  exact h _ _ _ ⟨hs.bucket_eq, hs.counters_eq⟩

/-- It may be made on the other side alone as well. -/
lemma lockstep_head_right {m : RequestM α} {f' : Option ObjectInfo → RequestM α'}
    (h : ∀ info, Lockstep R m (f' info)) : Lockstep R m (head key >>= f') := by
  intro s s' hs
  rw [runUnder_bind_ok (runUnder_head (p := .faultless))]
  exact h _ _ _ ⟨hs.bucket_eq, hs.counters_eq⟩

/-- A fetch keeps in step with itself. -/
lemma lockstep_get : Lockstep (· = ·) (get key) (get key) := by
  intro s s' hs
  rw [runUnder_get, runUnder_get, hs.bucket_eq]
  exact ⟨.ok rfl, hs.bucket_eq, hs.counters_eq⟩

/-- A write keeps in step with itself. -/
lemma lockstep_put (data : Octets) (contentType : String) :
    Lockstep (· = ·) (put key data contentType) (put key data contentType) := by
  intro s s' hs
  rw [runUnder_put, runUnder_put, hs.bucket_eq]
  exact ⟨.ok rfl, rfl, hs.counters_eq⟩

/-- A deletion keeps in step with itself. -/
lemma lockstep_delete : Lockstep (· = ·) (delete key) (delete key) := by
  intro s s' hs
  rw [runUnder_delete, runUnder_delete, hs.bucket_eq]
  exact ⟨.ok rfl, rfl, hs.counters_eq⟩

/-- A listing keeps in step with itself. -/
lemma lockstep_list : Lockstep (· = ·) (list base) (list base) := by
  intro s s' hs
  have hlisting : Plan.listing .faultless s' base = Plan.listing .faultless s base := by
    rw [Plan.listing, Plan.listing, hs.bucket_eq]
    rfl
  rw [runUnder_list, runUnder_list, hlisting]
  exact ⟨.ok rfl, hs.bucket_eq, hs.counters_eq⟩

/-- To count keeps in step with itself. -/
lemma lockstep_count (g : Counters → Counters) : Lockstep (· = ·) (count g) (count g) :=
  fun _ _ hs => ⟨.ok rfl, hs.bucket_eq, congrArg g hs.counters_eq⟩

/-- A batch keeps in step with itself. -/
lemma lockstep_deleteBatch (keys : List Key) :
    Lockstep (· = ·) (deleteBatch keys) (deleteBatch keys) := by
  by_cases hkeys : keys = []
  · rw [hkeys]
    exact lockstep_pure rfl
  · intro s s' hs
    rw [runUnder_deleteBatch hkeys, runUnder_deleteBatch hkeys, Plan.batchError_faultless,
      Plan.batchError_faultless]
    refine ⟨.ok rfl, ?_, ?_⟩
    · simp only [Session.afterBatch, hs.bucket_eq]
      rfl
    · simp only [Session.afterBatch, hs.counters_eq]
      rfl

end Backend

namespace BulkDelete

open RequestM

/-- To submit pages keeps in step with itself. -/
lemma lockstep_submit (submitted : ℕ) (pages : List (List Entry)) :
    Lockstep (· = ·) (submit submitted pages) (submit submitted pages) := by
  induction pages generalizing submitted with
  | nil => exact lockstep_pure rfl
  | cons page rest ih =>
    rw [submit]
    split_ifs
    · exact ih submitted
    · exact (Backend.lockstep_deleteBatch _).bind_self fun _ => ih _

/-- A bulk deletion keeps in step with itself. -/
lemma lockstep_run (base : Key) (size : BatchSize) :
    Lockstep (· = ·) (run base size) (run base size) := by
  unfold run
  refine Backend.lockstep_list.bind_self fun listing =>
    (lockstep_submit 0 _).bind_self fun submitted => ?_
  cases listing.failure with
  | some error => exact lockstep_throw error
  | none => exact (Backend.lockstep_count _).bind_self fun _ => lockstep_pure rfl

end BulkDelete

/-! ## Operations -/

namespace Store

open RequestM

variable (s : Store)

/-- **Storing a tile keeps in step with itself, whoever listens.** Only the events may differ, for
these depend on a probe that is made for listeners alone. -/
lemma lockstep_writeTile (t : Tile) (r : Registry) :
    Lockstep (fun _ _ => True) (writeTile t s) (writeTile t { s with listeners := r }) := by
  have hwrite (blob : Octets) (key : Key) :
      Lockstep (· = ·) (writeTile.writeBlob t key blob) (writeTile.writeBlob t key blob) :=
    (Backend.lockstep_put blob t.format).bind_self fun _ => Backend.lockstep_count _
  have hdone (blob : Octets) (key : Key) (event event' : Option Event) :
      Lockstep (fun _ _ => True) (do writeTile.writeBlob t key blob; return event)
        (do writeTile.writeBlob t key blob; return event') :=
    (hwrite blob key).bind_self fun _ => lockstep_pure trivial
  rw [writeTile_eq, writeTile_eq]
  refine (lockstep_ofExcept (s.checkedPut t)).bind_self fun x => ?_
  split_ifs
  · exact hdone _ _ _ _
  · exact Backend.lockstep_head_right fun info => hdone _ _ _ _
  · exact Backend.lockstep_head_left fun info => hdone _ _ _ _
  · exact Backend.lockstep_head.bind_self fun info => hdone _ _ _ _

/-- Reading a tile keeps in step with itself. -/
lemma lockstep_readTile (t : Tile) : Lockstep (· = ·) (readTile t s) (readTile t s) := by
  unfold readTile
  rw [← checkedTile_bind]
  refine (lockstep_ofExcept _).bind_self fun key => Backend.lockstep_get.bind_self fun object => ?_
  cases object <;> exact (Backend.lockstep_count _).bind_self fun _ => lockstep_pure rfl

/-- Removing a tile keeps in step with itself. -/
lemma lockstep_eraseTile (t : Tile) : Lockstep (· = ·) (eraseTile t s) (eraseTile t s) := by
  unfold eraseTile
  rw [← checkedTile_bind]
  refine (lockstep_ofExcept _).bind_self fun key => Backend.lockstep_head.bind_self fun info => ?_
  cases info with
  | none => exact lockstep_pure rfl
  | some info =>
    exact Backend.lockstep_delete.bind_self fun _ =>
      (Backend.lockstep_count _).bind_self fun _ => lockstep_pure rfl

/-- Removing a layer keeps in step with itself. -/
lemma lockstep_eraseLayer (n : String) : Lockstep (· = ·) (eraseLayer n s) (eraseLayer n s) := by
  unfold eraseLayer
  rw [← checkedLayer_bind]
  refine (lockstep_ofExcept _).bind_self fun x =>
    (BulkDelete.lockstep_run _ _).bind_self fun submitted => ?_
  have hrest (existed : Bool) : Lockstep (· = ·)
      (if existed then Backend.delete x.2 >>= fun _ => pure existed else pure existed)
      (if existed then Backend.delete x.2 >>= fun _ => pure existed else pure existed) := by
    cases existed with
    | true => exact Backend.lockstep_delete.bind_self fun _ => lockstep_pure rfl
    | false => exact lockstep_pure rfl
  dsimp only
  split_ifs
  · exact (lockstep_pure rfl).bind_self hrest
  · exact Backend.lockstep_head.bind_self fun info => (lockstep_pure rfl).bind_self hrest

/-- Removing a gridset keeps in step with itself. -/
lemma lockstep_eraseGridset (n g : String) :
    Lockstep (· = ·) (eraseGridset n g s) (eraseGridset n g s) := by
  unfold eraseGridset
  rw [← checkedGridset_bind]
  exact (lockstep_ofExcept _).bind_self fun base =>
    (BulkDelete.lockstep_run _ _).bind_self fun _ => lockstep_pure rfl

/-- Loading metadata keeps in step with itself. -/
lemma lockstep_loadProperties (n : String) :
    Lockstep (· = ·) (s.loadProperties n) (s.loadProperties n) := by
  unfold loadProperties
  refine (lockstep_ofExcept _).bind_self fun key => Backend.lockstep_get.bind_self fun object => ?_
  cases object with
  | none => exact lockstep_pure rfl
  | some o => exact lockstep_ofExcept _

/-- Reading metadata keeps in step with itself. -/
lemma lockstep_readMetadata (n name : String) :
    Lockstep (· = ·) (readMetadata n name s) (readMetadata n name s) := by
  unfold readMetadata
  rw [requireLive_eq]
  exact (lockstep_ofExcept _).bind_self fun _ =>
    (s.lockstep_loadProperties n).bind_self fun properties => lockstep_pure rfl

/-- Writing metadata keeps in step with itself. -/
lemma lockstep_writeMetadata (n name value : String) :
    Lockstep (· = ·) (writeMetadata n name value s) (writeMetadata n name value s) := by
  unfold writeMetadata
  rw [requireLive_eq]
  exact (lockstep_ofExcept _).bind_self fun _ =>
    (s.lockstep_loadProperties n).bind_self fun properties =>
      (lockstep_ofExcept _).bind_self fun place => Backend.lockstep_put _ _

/-- The check of the access keeps in step with itself. -/
lemma lockstep_probeRoot : Lockstep (· = ·) (probeRoot s) (probeRoot s) := by
  unfold probeRoot
  rw [requireLive_eq]
  exact (lockstep_ofExcept _).bind_self fun _ => Backend.lockstep_list.bind_self fun listing =>
    (lockstep_ofExcept _).bind_self fun entry => lockstep_pure rfl

end Store

/-- Two findings but for what there is to announce. -/
def Finding.SameAnswer (f f' : Finding) : Prop :=
  f.answer = f'.answer ∧ f.tile = f'.tile

/-- **The requests of a call keep in step with themselves, whoever listens.** -/
lemma Call.lockstep_requests (s : Store) (r : Registry) (call : Call) :
    RequestM.Lockstep Finding.SameAnswer (call.requests s)
      (call.requests { s with listeners := r }) := by
  -- Storing a tile apart, the requests are the same ones.
  have hsame {α : Type} {m : RequestM α} (h : RequestM.Lockstep (· = ·) m m) (g : α → Finding) :
      RequestM.Lockstep Finding.SameAnswer (g <$> m) (g <$> m) :=
    h.map fun a a' heq => heq ▸ ⟨rfl, rfl⟩
  cases call with
  | put t => exact (s.lockstep_writeTile t r).map fun event event' _ => ⟨rfl, rfl⟩
  | get t => exact hsame (s.lockstep_readTile t) _
  | deleteTile t => exact hsame (s.lockstep_eraseTile t) _
  | deleteLayer n => exact hsame (s.lockstep_eraseLayer n) _
  | deleteGridset n g => exact hsame (s.lockstep_eraseGridset n g) _
  | getMetadata n name => exact hsame (s.lockstep_readMetadata n name) _
  | putMetadata n name value => exact hsame (s.lockstep_writeMetadata n name value) _

end TileCache
