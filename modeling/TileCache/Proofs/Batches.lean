import TileCache.Proofs.Pages
import TileCache.Proofs.Requests
set_option autoImplicit false

/-!
# Bulk deletions under any plan

What a bulk deletion does if requests may fail. Its batches are sent one after the other, and the
first that fails ends it. A listing that breaks off yields its full pages before, so that its error
comes after theirs. Whatever fails, only keys strictly below the given key are taken away, and none
of metadata.

## Main definitions

* `TileCache.Plan.Grants` — batches none of which fails.
* `TileCache.Session.afterBatches` — the session after batches, whatever becomes of them.
* `TileCache.BulkDelete.Sent` — how sending batches may go.
* `TileCache.BulkDelete.Swept` — how a bulk deletion may go.

## Main results

* `TileCache.BulkDelete.sent_submit`, `swept_run` — these are all the ways in which it may go.
* `TileCache.BulkDelete.Swept.thinned` — what is taken away at most.
* `TileCache.BulkDelete.Swept.requests` — what is requested.
-/

namespace TileCache

/-! ## Batches one after the other -/

/-- Batches sent one after the other, the first after the requests in `past`, do not fail. -/
def Plan.Grants (p : Plan) (past : List Request) : List (List Key) → Prop
  | [] => True
  | keys :: rest => p.batchError past keys = none ∧ p.Grants (past ++ [.batch keys]) rest

namespace Session

variable (p : Plan) (s : Session)

/-- The session after a bulk deletion of `n` keys is counted. -/
def counted (n : ℕ) : Session :=
  { s with counters := { s.counters with bulkDeleted := s.counters.bulkDeleted + n } }

/-- To count is no request. -/
@[simp]
lemma trace_counted (n : ℕ) : (s.counted n).trace = s.trace := rfl

/-- To count leaves the bucket as it is. -/
@[simp]
lemma bucket_counted (n : ℕ) : (s.counted n).bucket = s.bucket := rfl

/-- The session after batches that are sent one after the other. -/
def afterBatches (sent : List (List Key)) : Session :=
  sent.foldl (afterBatch p) s

/-- Every batch is recorded. -/
lemma trace_afterBatches (sent : List (List Key)) :
    (s.afterBatches p sent).trace = s.trace ++ sent.map .batch := by
  induction sent generalizing s with
  | nil => simp [afterBatches]
  | cons keys rest ih =>
    have hrest := ih (s.afterBatch p keys)
    rw [afterBatches] at hrest ⊢
    rw [List.foldl_cons, hrest]
    simp [afterBatch]

/-- Batches take away keys that they hold, and no others. -/
lemma thinned_afterBatches (sent : List (List Key)) :
    Bucket.Thinned (· ∈ sent.flatten) s.bucket (s.afterBatches p sent).bucket := by
  induction sent generalizing s with
  | nil => exact .refl _ _
  | cons keys rest ih =>
    have hfirst : Bucket.Thinned (· ∈ (keys :: rest).flatten) s.bucket
        (s.afterBatch p keys).bucket := by
      refine .of_eraseAll fun k hk => ?_
      have hmem : k ∈ keys := by simpa using (Bool.and_eq_true_iff.1 hk).1
      exact List.mem_append_left _ hmem
    exact hfirst.trans ((ih (s.afterBatch p keys)).mono fun k hk => List.mem_append_right _ hk)

/-- If what batches remove does not depend on when they are sent, they take away what they hold of
it. -/
lemma bucket_afterBatches {gone : Key → Bool}
    (h : ∀ past keys k, k ∈ keys → (p.batch past keys).removes k = gone k) (sent : List (List Key)) :
    (s.afterBatches p sent).bucket =
      s.bucket.eraseAll fun k => sent.flatten.contains k && gone k := by
  induction sent generalizing s with
  | nil => rw [s.bucket.eraseAll_of_forall (by simp)]; rfl
  | cons keys rest ih =>
    have hfirst : (s.afterBatch p keys).bucket =
        s.bucket.eraseAll fun k => keys.contains k && gone k := by
      have htest : (fun k => keys.contains k && (p.batch s.trace keys).removes k) =
          fun k => keys.contains k && gone k := by
        funext k
        by_cases hk : k ∈ keys <;> simp [hk, h]
      rw [afterBatch, htest]
    rw [afterBatches, List.foldl_cons, ← afterBatches, ih, hfirst, Bucket.eraseAll_eraseAll]
    simp only [List.flatten_cons, List.contains_append, Bool.and_or_distrib_right]

end Session

/-- The entries are listed with their keys. -/
lemma Bucket.map_key_entriesBelow (b : Bucket) (base : Key) :
    (b.entriesBelow base).map (·.key) = b.keysBelow base := by
  rw [entriesBelow, List.map_map]
  rfl

namespace BulkDelete

open RequestM

variable {p : Plan} {s s' : Session} {base : Key} {size : BatchSize}

/-! ## Pages -/

/-- How sending batches may go: all succeed, or the first that fails is the last that is sent. -/
inductive Sent (p : Plan) (s : Session) (batches : List (List Key)) :
    Option StorageError → Session → Prop
  | all (granted : p.Grants s.trace batches) : Sent p s batches none (s.afterBatches p batches)
  | refused {sent : List (List Key)} {keys : List Key} {rest : List (List Key)}
      {error : StorageError} (split : batches = sent ++ keys :: rest)
      (granted : p.Grants s.trace sent)
      (failed : p.batchError (s.trace ++ sent.map .batch) keys = some error) :
      Sent p s batches (some error) (s.afterBatches p (sent ++ [keys]))

/-- A batch that does not fail is followed by the others. -/
lemma Sent.cons {keys : List Key} {rest : List (List Key)} {error : Option StorageError}
    (hkeys : p.batchError s.trace keys = none) (h : Sent p (s.afterBatch p keys) rest error s') :
    Sent p s (keys :: rest) error s' := by
  cases h with
  | all granted => exact .all ⟨hkeys, granted⟩
  | @refused sent keys' rest' error split granted failed =>
    have hsplit : keys :: rest = (keys :: sent) ++ keys' :: rest' := by
      rw [split]
      rfl
    refine Sent.refused hsplit ⟨hkeys, granted⟩ ?_
    simpa [Session.afterBatch] using failed

/-- **Pages are submitted as batches**, up to the first that fails; the keys of all are counted.

**Proof sketch.** Induction on the pages. A page without keys makes no batch; behind a batch that
does not fail, the other pages go as they go from the session that it leaves. -/
lemma sent_submit (submitted : ℕ) (pages : List (List Entry)) (p : Plan) (s : Session) :
    ∃ error s', Sent p s (batches pages) error s' ∧
      (submit submitted pages).runUnder p s =
        (error.elim (.ok (submitted + (batches pages).flatten.length)) .error, s') := by
  induction pages generalizing submitted s with
  | nil => exact ⟨none, s, .all trivial, by simp [submit, batches]⟩
  | cons page rest ih =>
    by_cases hpage : pageKeys page = []
    · rw [batches_cons_of_eq_nil hpage, submit]
      simp only [hpage, List.isEmpty_nil, if_true]
      exact ih submitted s
    · rw [batches_cons_of_ne_nil hpage, submit]
      rw [if_neg (by simpa using hpage)]
      have hbatch := Backend.runUnder_deleteBatch (p := p) (s := s) hpage
      cases herror : p.batchError s.trace (pageKeys page) with
      | none =>
        obtain ⟨error, s', hsent, hrun⟩ :=
          ih (submitted + (pageKeys page).length) (s.afterBatch p (pageKeys page))
        rw [herror] at hbatch
        refine ⟨error, s', hsent.cons herror, ?_⟩
        rw [runUnder_bind_ok hbatch, hrun, List.flatten_cons, List.length_append, Nat.add_assoc]
      | some error =>
        rw [herror] at hbatch
        refine ⟨some error, s.afterBatch p (pageKeys page), ?_, runUnder_bind_error hbatch⟩
        refine @Sent.refused p s _ [] (pageKeys page) (batches rest) error rfl trivial ?_
        simpa using herror

/-- The batches that are sent are the first ones. -/
lemma Sent.exists_initial {batches : List (List Key)} {error : Option StorageError}
    (h : Sent p s batches error s') :
    ∃ sent, sent <+: batches ∧ s' = s.afterBatches p sent := by
  cases h with
  | all granted => exact ⟨batches, List.prefix_rfl, rfl⟩
  | @refused sent keys rest error split granted failed =>
    exact ⟨sent ++ [keys], ⟨rest, by simp [split]⟩, rfl⟩

/-! ## What is listed -/

/-- The full pages of a list hold its first items. -/
lemma prefix_flatten_fullPages {α : Type} (size : BatchSize) (items : List α) :
    (fullPages size items).flatten <+: items := by
  rw [fullPages, flatten_pages]
  exact List.take_prefix _ _

/-- The pages of a listing hold its first entries. -/
lemma prefix_flatten_listedPages (size : BatchSize) (l : Listing) :
    (listedPages size l).flatten <+: l.entries := by
  unfold listedPages
  cases l.failure with
  | none => simp only [flatten_pages, List.prefix_rfl]
  | some error => exact prefix_flatten_fullPages size l.entries

/-- A listing shows the first of the entries that there are. -/
lemma prefix_entries_listing (p : Plan) (s : Session) (base : Key) :
    (p.listing s base).entries <+: s.bucket.entriesBelow base := by
  unfold Plan.listing
  rcases p.list s.trace base with _ | ⟨shown, error⟩
  · exact List.prefix_rfl
  · exact List.take_prefix _ _

/-- Of all entries below a key, those that are not metadata are to be deleted. -/
lemma pageKeys_entriesBelow (b : Bucket) (base : Key) :
    pageKeys (b.entriesBelow base) = b.tileKeys base := by
  rw [pageKeys, Bucket.entriesBelow, List.map_map]
  rfl

/-- **Only keys below the given key get into a batch, and none of metadata.** -/
lemma mem_tileKeys_of_mem_batches {k : Key}
    (h : k ∈ (batches (listedPages size (p.listing s base))).flatten) :
    k ∈ s.bucket.tileKeys base := by
  rw [flatten_batches] at h
  rw [← pageKeys_entriesBelow]
  have hlisted : (listedPages size (p.listing s base)).flatten <+: s.bucket.entriesBelow base :=
    (prefix_flatten_listedPages size _).trans (prefix_entries_listing p s base)
  exact ((hlisted.map _).filter _).subset h

/-! ## Bulk deletions -/

/-- How a bulk deletion may go: to the end, or up to the first request that fails. The error of a
listing comes last, for its pages are submitted before it is seen. -/
inductive Swept (p : Plan) (s : Session) (base : Key) (size : BatchSize) :
    Except StorageError ℕ → Session → Prop
  | finished {s' : Session} (ended : p.list s.trace base = none)
      (sent : Sent p (s.sent (.list base)) (batches (pages size (s.bucket.entriesBelow base)))
        none s') :
      Swept p s base size (.ok (s.bucket.tileKeys base).length)
        (s'.counted (s.bucket.tileKeys base).length)
  | brokenOff {s' : Session} {shown : ℕ} {error : BucketError}
      (broken : p.list s.trace base = some (shown, error))
      (sent : Sent p (s.sent (.list base))
        (batches (fullPages size ((s.bucket.entriesBelow base).take shown))) none s') :
      Swept p s base size (.error (Backend.refusal "list" base.text error)) s'
  | refused {s' : Session} {error : StorageError}
      (sent : Sent p (s.sent (.list base)) (batches (listedPages size (p.listing s base)))
        (some error) s') :
      Swept p s base size (.error error) s'

/-- **A bulk deletion goes in one of these ways.** -/
lemma swept_run (p : Plan) (s : Session) (base : Key) (size : BatchSize) :
    ∃ x s', Swept p s base size x s' ∧ (run base size).runUnder p s = (x, s') := by
  have hlist : (Backend.list base).runUnder p s = (.ok (p.listing s base), s.sent (.list base)) :=
    Backend.runUnder_list
  obtain ⟨error, s', hsent, hsubmit⟩ :=
    sent_submit 0 (listedPages size (p.listing s base)) p (s.sent (.list base))
  cases error with
  | some error =>
    refine ⟨.error error, s', .refused hsent, ?_⟩
    rw [run, runUnder_bind_ok hlist, runUnder_bind_error hsubmit]
  | none =>
    rw [run, runUnder_bind_ok hlist, runUnder_bind_ok hsubmit]
    cases hplan : p.list s.trace base with
    | none =>
      have hlisting : p.listing s base = ⟨s.bucket.entriesBelow base, none⟩ := by
        simp only [Plan.listing, hplan]
      rw [hlisting] at hsent ⊢
      refine ⟨_, _, .finished hplan hsent, ?_⟩
      rw [flatten_batches, listedPages, flatten_pages, pageKeys_entriesBelow, Nat.zero_add]
      rfl
    | some broken =>
      obtain ⟨shown, error⟩ := broken
      have hlisting : p.listing s base = ⟨(s.bucket.entriesBelow base).take shown,
          some (Backend.refusal "list" base.text error)⟩ := by
        simp only [Plan.listing, hplan]
      rw [hlisting] at hsent ⊢
      exact ⟨_, _, .brokenOff hplan hsent, rfl⟩

namespace Swept

variable {x : Except StorageError ℕ} {n : ℕ}

/-- The batches of a bulk deletion are the first of those that its listing makes. -/
lemma exists_initial (h : Swept p s base size x s') :
    ∃ sent, sent <+: batches (listedPages size (p.listing s base)) ∧
      s'.bucket = ((s.sent (.list base)).afterBatches p sent).bucket ∧
      s'.trace = ((s.sent (.list base)).afterBatches p sent).trace := by
  cases h with
  | finished ended sent =>
    obtain ⟨batches, hbatches, rfl⟩ := sent.exists_initial
    refine ⟨batches, ?_, rfl, rfl⟩
    simpa only [Plan.listing, ended, listedPages] using hbatches
  | brokenOff broken sent =>
    obtain ⟨batches, hbatches, rfl⟩ := sent.exists_initial
    refine ⟨batches, ?_, rfl, rfl⟩
    simpa only [Plan.listing, broken, listedPages] using hbatches
  | refused sent =>
    obtain ⟨batches, hbatches, rfl⟩ := sent.exists_initial
    exact ⟨batches, hbatches, rfl, rfl⟩

/-- **Nothing is taken away but what is strictly below the key, and no metadata**, whatever fails.
-/
lemma thinned (h : Swept p s base size x s') :
    Bucket.Thinned (Bucket.IsTileKey base) s.bucket s'.bucket := by
  obtain ⟨sent, hprefix, hbucket, -⟩ := h.exists_initial
  rw [hbucket]
  refine ((s.sent (.list base)).thinned_afterBatches p sent).mono fun k hk => ?_
  obtain ⟨keys, hkeys, hk⟩ := List.mem_flatten.1 hk
  have hmem : k ∈ s.bucket.tileKeys base :=
    mem_tileKeys_of_mem_batches (List.mem_flatten.2 ⟨keys, hprefix.subset hkeys, hk⟩)
  exact ((s.bucket.mem_tileKeys_iff base).1 hmem).2

/-- A bulk deletion requests a listing and then batches alone. -/
lemma requests (h : Swept p s base size x s') :
    ∃ sent : List (List Key), s'.trace = s.trace ++ .list base :: sent.map .batch := by
  obtain ⟨sent, -, -, htrace⟩ := h.exists_initial
  refine ⟨sent, ?_⟩
  rw [htrace, Session.trace_afterBatches]
  simp [Session.sent]

/-- **A bulk deletion that does not fail** has seen the end of its listing, and all its batches
succeeded. -/
lemma of_ok (h : Swept p s base size (.ok n) s') :
    n = (s.bucket.tileKeys base).length ∧ p.list s.trace base = none ∧
      p.Grants (s.trace ++ [.list base]) (batches (pages size (s.bucket.entriesBelow base))) ∧
      s'.trace = s.trace ++
        .list base :: (batches (pages size (s.bucket.entriesBelow base))).map .batch := by
  cases h with
  | finished ended sent =>
    cases sent with
    | all granted =>
      refine ⟨rfl, ended, granted, ?_⟩
      rw [Session.trace_counted, Session.trace_afterBatches]
      simp [Session.sent]

end Swept

end BulkDelete

end TileCache
