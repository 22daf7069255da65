import Mathlib.Tactic.Common
import TileCache.Backend
set_option autoImplicit false

/-!
# What requests do

The equations of computations that make requests: how two are run one after the other, and what each
request returns and leaves behind under an arbitrary plan. Where no request fails, neither the trace
nor the counters matter, and a computation is a change of the bucket with a result.

## Main definitions

* `TileCache.Session.sent` — the session with one request more in its trace.
* `TileCache.Plan.ProbesHonestly`, `TileCache.Plan.FetchesHonestly` — probes, or fetches, fail, but
  they do not deny that there is an object.
* `TileCache.Plan.listing` — what a listing yields.
* `TileCache.Plan.batchError`, `TileCache.Session.afterBatch` — the error of a batch, and what the
  batch leaves behind.
* `TileCache.RequestM.Serves` — what a computation makes of a bucket if no request fails.

## Main results

* `TileCache.RequestM.runUnder_bind_ok`, `runUnder_bind_error` — computations in sequence.
* `TileCache.Backend.runUnder_head`, `runUnder_get`, `runUnder_put`, `runUnder_delete`,
  `runUnder_list`, `runUnder_deleteBatch` — one request under any plan.
* `TileCache.Backend.serves_head`, `serves_get`, `serves_put`, `serves_delete`, `serves_list` — one
  request that does not fail.
-/

namespace TileCache

/-- The session with one request more in its trace. -/
def Session.sent (s : Session) (r : Request) : Session :=
  { s with trace := s.trace ++ [r] }

/-- A request on its way leaves the bucket as it is. -/
@[simp]
lemma Session.bucket_sent (s : Session) (r : Request) : (s.sent r).bucket = s.bucket := rfl

/-- A request on its way is recorded. -/
@[simp]
lemma Session.trace_sent (s : Session) (r : Request) : (s.sent r).trace = s.trace ++ [r] := rfl

/-- The entries that a bucket lists below a key. -/
def Bucket.entriesBelow (b : Bucket) (base : Key) : List Entry :=
  (b.below base).map fun e => ⟨e.1, e.2.size⟩

/-- What a listing yields: all entries, or the first ones and an error. -/
def Plan.listing (p : Plan) (s : Session) (base : Key) : Listing :=
  match p.list s.trace base with
  | none => ⟨s.bucket.entriesBelow base, none⟩
  | some (shown, error) =>
    ⟨(s.bucket.entriesBelow base).take shown, some (Backend.refusal "list" base.text error)⟩

/-- The error of a batch that is sent after the requests in `past`, if it fails. -/
def Plan.batchError (p : Plan) (past : List Request) (keys : List Key) : Option StorageError :=
  (Backend.settle keys.length (p.batch past keys).answers).error

/-- The session after a batch, whether it fails or not. -/
def Session.afterBatch (p : Plan) (s : Session) (keys : List Key) : Session where
  bucket := s.bucket.eraseAll fun key => keys.contains key && (p.batch s.trace keys).removes key
  trace := s.trace ++ [.batch keys]
  counters := { s.counters with
    batchFailures := s.counters.batchFailures +
      (Backend.settle keys.length (p.batch s.trace keys).answers).failures }

/-- A probe that is refused is an error, not the answer that there is no object. -/
def Plan.ProbesHonestly (p : Plan) : Prop :=
  ∀ past key error, p.head past key = some error → error.isNotFound = false

/-- A fetch that is refused is an error, not the answer that there is no object. -/
def Plan.FetchesHonestly (p : Plan) : Prop :=
  ∀ past key error, p.get past key = .refused error → error.isNotFound = false

namespace RequestM

variable {α β : Type} {p : Plan} {s s' : Session} {a : α} {e : StorageError}

/-! ## Sequences -/

/-- A value alone makes no request. -/
@[simp]
lemma runUnder_pure (a : α) : (pure a : RequestM α).runUnder p s = (.ok a, s) := rfl

/-- An error alone makes no request. -/
@[simp]
lemma runUnder_throw (e : StorageError) :
    (throw e : RequestM α).runUnder p s = (.error e, s) := rfl

/-- A result known beforehand makes no request. -/
@[simp]
lemma runUnder_ofExcept (x : Except StorageError α) :
    (MonadExcept.ofExcept x : RequestM α).runUnder p s = (x, s) := by
  cases x <;> rfl

/-- The plan is the one that the computation runs under. -/
@[simp]
lemma runUnder_read : (read : RequestM Plan).runUnder p s = (.ok p, s) := rfl

/-- The session is the one that the computation runs on. -/
@[simp]
lemma runUnder_session : (MonadState.get : RequestM Session).runUnder p s = (.ok s, s) := rfl

/-- **Two computations in sequence**: the second runs on what the first left, with its value. -/
lemma runUnder_bind (m : RequestM α) (f : α → RequestM β) :
    (m >>= f).runUnder p s =
      match m.runUnder p s with
      | (.ok a, s') => (f a).runUnder p s'
      | (.error e, s') => (.error e, s') := by
  simp only [runUnder, ReaderT.run_bind, ExceptT.run_bind, StateT.run_bind]
  rcases (m.run p).run.run s with ⟨_ | _, _⟩ <;> rfl

/-- The second computation runs on what the first left. -/
lemma runUnder_bind_ok {m : RequestM α} {f : α → RequestM β} (h : m.runUnder p s = (.ok a, s')) :
    (m >>= f).runUnder p s = (f a).runUnder p s' := by
  rw [runUnder_bind, h]

/-- After an error there is no second computation. -/
lemma runUnder_bind_error {m : RequestM α} {f : α → RequestM β}
    (h : m.runUnder p s = (.error e, s')) : (m >>= f).runUnder p s = (.error e, s') := by
  rw [runUnder_bind, h]

end RequestM

/-! ## One request under any plan -/

namespace Backend

open RequestM

variable {p : Plan} {s : Session} {key base : Key} {data : Octets} {contentType : String}

/-- A request is recorded, and those before it are known. -/
@[simp]
lemma runUnder_send (r : Request) : (send r).runUnder p s = (.ok s.trace, s.sent r) := rfl

/-- The counters change alone. -/
@[simp]
lemma runUnder_count (f : Counters → Counters) :
    (count f).runUnder p s = (.ok (), { s with counters := f s.counters }) := rfl

/-- The bucket changes alone. -/
@[simp]
lemma runUnder_change (f : Bucket → Bucket) :
    (change f).runUnder p s = (.ok (), { s with bucket := f s.bucket }) := rfl

/-- What a probe returns. It leaves nothing behind but its trace. -/
lemma runUnder_head :
    (head key).runUnder p s =
      (match p.head s.trace key with
        | some error =>
          if error.isNotFound then .ok none else .error (refusal "head" key.text error)
        | none => .ok ((s.bucket.find? key).map StoredObject.info),
      s.sent (.head key)) := by
  simp only [head, runUnder_bind, runUnder_send, runUnder_read]
  cases p.head s.trace key with
  | none => simp only [runUnder_bind, runUnder_session, runUnder_pure, Session.bucket_sent]
  | some error =>
    by_cases h : error.isNotFound = true <;> simp [h]

/-- What a fetch returns. It leaves nothing behind but its trace. -/
lemma runUnder_get :
    (get key).runUnder p s =
      (match p.get s.trace key with
        | .refused error =>
          if error.isNotFound then .ok none else .error (refusal "get" key.text error)
        | .served => .ok (s.bucket.find? key)
        | .bodyLost error =>
          match s.bucket.find? key with
          | none => .ok none
          | some _ => .error (refusal "get" key.text error),
      s.sent (.get key)) := by
  simp only [get, runUnder_bind, runUnder_send, runUnder_read]
  cases p.get s.trace key with
  | served => simp only [runUnder_bind, runUnder_session, runUnder_pure, Session.bucket_sent]
  | refused error => by_cases h : error.isNotFound = true <;> simp [h]
  | bodyLost error =>
    simp only [runUnder_bind, runUnder_session, Session.bucket_sent]
    cases s.bucket.find? key <;> rfl

/-- What a write leaves behind. -/
lemma runUnder_put :
    (put key data contentType).runUnder p s =
      match p.put s.trace key with
      | some error =>
        (.error (refusal "put" key.text error), s.sent (.put key data.length contentType))
      | none =>
        (.ok (), { s.sent (.put key data.length contentType) with
          bucket := s.bucket.put key data contentType }) := by
  simp only [put, runUnder_bind, runUnder_send, runUnder_read]
  cases p.put s.trace key with
  | none => rfl
  | some error => rfl

/-- What a deletion leaves behind. -/
lemma runUnder_delete :
    (delete key).runUnder p s =
      match p.delete s.trace key with
      | some error =>
        (if error.isNotFound then .ok () else .error (refusal "delete" key.text error),
          s.sent (.delete key))
      | none => (.ok (), { s.sent (.delete key) with bucket := s.bucket.erase key }) := by
  simp only [delete, runUnder_bind, runUnder_send, runUnder_read]
  cases p.delete s.trace key with
  | none => rfl
  | some error => by_cases h : error.isNotFound = true <;> simp [h]

/-- A probe leaves nothing behind but its trace. -/
lemma eq_sent_of_head {x : Except StorageError (Option ObjectInfo)} {s' : Session}
    (h : (head key).runUnder p s = (x, s')) : s' = s.sent (.head key) := by
  rw [runUnder_head] at h
  exact (congrArg Prod.snd h).symm

/-- An honest probe that does not fail tells what there is. -/
lemma eq_map_info_of_head (hhonest : p.ProbesHonestly) {info : Option ObjectInfo} {s' : Session}
    (h : (head key).runUnder p s = (.ok info, s')) :
    info = (s.bucket.find? key).map StoredObject.info := by
  rw [runUnder_head] at h
  cases hplan : p.head s.trace key with
  | none =>
    simp only [hplan, Prod.mk.injEq, Except.ok.injEq] at h
    exact h.1.symm
  | some error => simp [hplan, hhonest _ _ _ hplan] at h

/-- A fetch that does not fail finds what there is, unless it is refused as if there were nothing.
-/
lemma eq_find?_of_get (hhonest : ∀ error, p.get s.trace key = .refused error →
    error.isNotFound = false) {object : Option StoredObject} {s' : Session}
    (h : (get key).runUnder p s = (.ok object, s')) : object = s.bucket.find? key := by
  rw [runUnder_get] at h
  cases hplan : p.get s.trace key with
  | served =>
    simp only [hplan, Prod.mk.injEq, Except.ok.injEq] at h
    exact h.1.symm
  | refused error => simp [hplan, hhonest error hplan] at h
  | bodyLost error =>
    cases hfind : s.bucket.find? key with
    | none =>
      simp only [hplan, hfind, Prod.mk.injEq, Except.ok.injEq] at h
      exact h.1.symm
    | some o => simp [hplan, hfind] at h

/-- A deletion is recorded. -/
lemma trace_of_delete {x : Except StorageError Unit} {s' : Session}
    (h : (delete key).runUnder p s = (x, s')) : s'.trace = s.trace ++ [.delete key] := by
  rw [runUnder_delete] at h
  cases hplan : p.delete s.trace key with
  | none =>
    simp only [hplan, Prod.mk.injEq] at h
    rw [← h.2]
    rfl
  | some error =>
    simp only [hplan, Prod.mk.injEq] at h
    rw [← h.2]
    rfl

/-- A deletion takes away the object with its key, or nothing; nothing if it fails. -/
lemma bucket_of_delete {x : Except StorageError Unit} {s' : Session}
    (h : (delete key).runUnder p s = (x, s')) :
    s'.bucket = s.bucket ∨ s'.bucket = s.bucket.erase key ∧ x = .ok () := by
  rw [runUnder_delete] at h
  cases hplan : p.delete s.trace key with
  | none =>
    simp only [hplan, Prod.mk.injEq] at h
    rw [← h.2]
    exact .inr ⟨rfl, h.1.symm⟩
  | some error =>
    simp only [hplan, Prod.mk.injEq] at h
    rw [← h.2]
    exact .inl rfl

/-- A listing leaves nothing behind but its trace. -/
lemma runUnder_list :
    (list base).runUnder p s = (.ok (p.listing s base), s.sent (.list base)) := by
  simp only [list, runUnder_bind, runUnder_send, runUnder_read, runUnder_session,
    Session.bucket_sent, Plan.listing]
  rcases p.list s.trace base with _ | ⟨shown, error⟩ <;> rfl

/-- What a batch leaves behind, and its error. -/
lemma runUnder_deleteBatch {keys : List Key} (h : keys ≠ []) :
    (deleteBatch keys).runUnder p s =
      (match p.batchError s.trace keys with
        | some error => .error error
        | none => .ok (),
      s.afterBatch p keys) := by
  rw [deleteBatch, if_neg (by simpa using h), Plan.batchError]
  simp only [runUnder_bind, runUnder_send, runUnder_read, runUnder_change, runUnder_count]
  cases (settle keys.length (p.batch s.trace keys).answers).error <;> rfl

end Backend

/-! ## Requests that do not fail -/

namespace RequestM

variable {α β : Type} {m : RequestM α} {f : α → RequestM β} {b b' b'' : Bucket} {a : α}
  {e : StorageError} {x : Except StorageError β}

/-- If no request fails, a computation returns `x` and turns the bucket `b` into `b'`, whatever the
trace and the counters. -/
def Serves (m : RequestM α) (b : Bucket) (x : Except StorageError α) (b' : Bucket) : Prop :=
  ∀ s : Session, s.bucket = b → ∃ s', m.runUnder .faultless s = (x, s') ∧ s'.bucket = b'

/-- A value alone leaves the bucket as it is. -/
lemma serves_pure (a : α) (b : Bucket) : Serves (pure a) b (.ok a) b :=
  fun s hs => ⟨s, runUnder_pure a, hs⟩

/-- An error alone leaves the bucket as it is. -/
lemma serves_throw (e : StorageError) (b : Bucket) :
    Serves (throw e : RequestM α) b (.error e) b :=
  fun s hs => ⟨s, runUnder_throw e, hs⟩

/-- A result known beforehand leaves the bucket as it is. -/
lemma serves_ofExcept (y : Except StorageError α) (b : Bucket) :
    Serves (MonadExcept.ofExcept y) b y b :=
  fun s hs => ⟨s, runUnder_ofExcept y, hs⟩

/-- **Two computations in sequence**, the second on what the first made of the bucket. -/
lemma Serves.bind (h : Serves m b (.ok a) b') (h' : Serves (f a) b' x b'') :
    Serves (m >>= f) b x b'' := by
  intro s hs
  obtain ⟨s', hrun, hs'⟩ := h s hs
  obtain ⟨s'', hrun', hs''⟩ := h' s' hs'
  exact ⟨s'', (runUnder_bind_ok hrun).trans hrun', hs''⟩

/-- After an error there is no second computation. -/
lemma Serves.bind_error (h : Serves m b (.error e) b') : Serves (m >>= f) b (.error e) b' := by
  intro s hs
  obtain ⟨s', hrun, hs'⟩ := h s hs
  exact ⟨s', runUnder_bind_error hrun, hs'⟩

end RequestM

namespace Backend

open RequestM

variable (key base : Key) (b : Bucket)

/-- Counting leaves the bucket as it is. -/
lemma serves_count (f : Counters → Counters) : Serves (count f) b (.ok ()) b :=
  fun _ hs => ⟨_, runUnder_count f, hs⟩

/-- A probe finds the object with its key. -/
lemma serves_head : Serves (head key) b (.ok ((b.find? key).map StoredObject.info)) b := by
  intro s hs
  subst hs
  exact ⟨_, runUnder_head, rfl⟩

/-- A fetch finds the object with its key. -/
lemma serves_get : Serves (get key) b (.ok (b.find? key)) b := by
  intro s hs
  subst hs
  exact ⟨_, runUnder_get, rfl⟩

/-- A write puts its object into the bucket. -/
lemma serves_put (data : Octets) (contentType : String) :
    Serves (put key data contentType) b (.ok ()) (b.put key data contentType) := by
  intro s hs
  subst hs
  exact ⟨_, runUnder_put, rfl⟩

/-- A deletion takes the object out of the bucket. -/
lemma serves_delete : Serves (delete key) b (.ok ()) (b.erase key) := by
  intro s hs
  subst hs
  exact ⟨_, runUnder_delete, rfl⟩

/-- A listing shows everything strictly below its key. -/
lemma serves_list :
    Serves (list base) b (.ok ⟨b.entriesBelow base, none⟩) b := by
  intro s hs
  subst hs
  exact ⟨_, runUnder_list, rfl⟩

/-- A batch of which every key is removed has no failures. -/
lemma settle_success (keys : List Key) :
    settle keys.length (BatchFate.success keys).answers = ⟨0, none⟩ := by
  have hrefusals : refusals (BatchFate.success keys).answers = [] := by
    simp [refusals, BatchFate.success]
  have hlength : (BatchFate.success keys).answers.length = keys.length := by
    simp [BatchFate.success]
  simp [settle, hrefusals, hlength]

end Backend

end TileCache
