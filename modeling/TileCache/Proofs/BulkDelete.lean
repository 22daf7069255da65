import TileCache.Proofs.Batches
set_option autoImplicit false

/-!
# Deleting below a key, without failures

If no request fails, a bulk deletion takes away everything strictly below its key but metadata,
whatever the size of its pages, and returns how many keys that were. Its batches are the pages of
what is listed, each without metadata; a page of metadata alone makes none.

## Main results

* `TileCache.BulkDelete.Swept.of_faultless` — how a bulk deletion goes if no request fails.
* `TileCache.BulkDelete.serves_run` — what it makes of a bucket.
* `TileCache.BulkDelete.run_deletes_filtered_chunks` — its batches, its count, and what is left.
-/

namespace TileCache

namespace Plan

/-- No batch fails. -/
lemma batchError_faultless (past : List Request) (keys : List Key) :
    Plan.faultless.batchError past keys = none := by
  have hbatch : Plan.faultless.batch past keys = BatchFate.success keys := rfl
  rw [batchError, hbatch, Backend.settle_success]

end Plan

/-- Batches that do not fail take away all keys that they hold. -/
lemma Session.bucket_afterBatches_faultless (s : Session) (sent : List (List Key)) :
    (s.afterBatches .faultless sent).bucket =
      s.bucket.eraseAll fun k => sent.flatten.contains k := by
  have hgone (past : List Request) (keys : List Key) (k : Key) (hk : k ∈ keys) :
      (Plan.faultless.batch past keys).removes k = true := by
    simpa [Plan.faultless, BatchFate.success] using hk
  rw [s.bucket_afterBatches .faultless hgone]
  simp only [Bool.and_true]

namespace BulkDelete

open RequestM

variable {s s' : Session} {base : Key} {size : BatchSize}

/-- If no batch fails, all are sent. -/
lemma Sent.of_faultless {batches : List (List Key)} {error : Option StorageError}
    (h : Sent .faultless s batches error s') :
    error = none ∧ s' = s.afterBatches .faultless batches := by
  cases h with
  | all granted => exact ⟨rfl, rfl⟩
  | refused split granted failed =>
    rw [Plan.batchError_faultless] at failed
    cases failed

/-- **If no request fails, a bulk deletion goes to its end**: all its batches are sent, and what is
strictly below the key is gone, but for metadata. -/
lemma Swept.of_faultless {x : Except StorageError ℕ} (h : Swept .faultless s base size x s') :
    x = .ok (s.bucket.tileKeys base).length ∧ s'.bucket = s.bucket.clearBelow base := by
  cases h with
  | finished ended sent =>
    obtain ⟨-, rfl⟩ := sent.of_faultless
    refine ⟨rfl, ?_⟩
    rw [Session.bucket_counted, Session.bucket_afterBatches_faultless, flatten_batches,
      flatten_pages, pageKeys_entriesBelow, Session.bucket_sent, Bucket.eraseAll_tileKeys]
  | brokenOff broken sent => cases broken
  | refused sent =>
    obtain ⟨herror, -⟩ := sent.of_faultless
    cases herror

/-- **What a bulk deletion deletes**: everything strictly below its key but metadata. It returns the
number of keys. -/
lemma serves_run (size : BatchSize) (base : Key) (b : Bucket) :
    Serves (run base size) b (.ok (b.tileKeys base).length) (b.clearBelow base) := by
  intro s hs
  subst hs
  obtain ⟨x, s', hswept, hrun⟩ := swept_run .faultless s base size
  obtain ⟨rfl, hbucket⟩ := hswept.of_faultless
  exact ⟨s', hrun, hbucket⟩

/-- The requests of a bulk deletion are a listing and the batches of all its pages. -/
lemma exists_run_faultless (s : Session) (base : Key) (size : BatchSize) :
    ∃ s', (run base size).runUnder .faultless s = (.ok (s.bucket.tileKeys base).length, s') ∧
      s'.bucket = s.bucket.clearBelow base ∧
      s'.trace = s.trace ++ .list base ::
        (batches (pages size (s.bucket.entriesBelow base))).map .batch := by
  obtain ⟨x, s', hswept, hrun⟩ := swept_run .faultless s base size
  obtain ⟨rfl, hbucket⟩ := hswept.of_faultless
  obtain ⟨-, -, -, htrace⟩ := hswept.of_ok
  exact ⟨s', hrun, hbucket, htrace⟩

/-- **The batches of a bulk deletion are its filtered pages, and it deletes just what they hold.**
Let no request fail, and let `n` be any number, which is brought between 1 and 1000. The keys
strictly below the given key, in the order of the listing, are cut into consecutive chunks of that
size. Every chunk makes one batch of its keys that are not metadata, in order, unless there are
none. So a batch has at least one key and at most as many as a chunk, no key is submitted twice, and
no metadata ever. What is returned is the number of keys below the given one that are not metadata;
exactly these are gone; and neither the count nor the bucket depends on `n`. When the first chunks
have been dealt with, the keys that are listed behind them are still the other chunks, so that it
makes no difference whether the listing is read at once or as it goes.

**Proof sketch.** The deletion goes to its end, so that its trace holds all its batches. They are
the chunks, filtered; put together they are the keys that are listed, filtered, of which none is
listed twice. -/
theorem run_deletes_filtered_chunks (s : Session) (base : Key) (n : ℕ) :
    let c := max 1 (min n 1000)
    let keys := s.bucket.keysBelow base
    let tiles := keys.filter fun k => !Layout.isMetadata k
    let batches := ((chunks c keys).map (List.filter fun k => !Layout.isMetadata k)).filter (· ≠ [])
    (∀ k, k ∈ keys ↔ (∃ o, s.bucket.find? k = some o) ∧ k.isBelow base = true) ∧
    keys.Pairwise (fun k k' => compare k k' = .lt) ∧
    ∃ s', (run base (.clamp n)).runUnder .faultless s = (.ok tiles.length, s') ∧
      s'.trace = s.trace ++ .list base :: batches.map .batch ∧
      (∀ batch ∈ batches, 1 ≤ batch.length ∧ batch.length ≤ c ∧
        ∀ k ∈ batch, Layout.isMetadata k = false) ∧
      batches.flatten = tiles ∧ batches.flatten.Nodup ∧
      s'.bucket.clock = s.bucket.clock ∧
      (∀ k, s'.bucket.find? k = if k ∈ tiles then none else s.bucket.find? k) ∧
      (∀ i, ((s.bucket.eraseAll fun k => k ∈ keys.take (i * c) ∧ k ∈ tiles).keysBelow base).filter
        (fun k => k ∉ keys.take (i * c)) = keys.drop (i * c)) ∧
      ∀ n', ∃ s'', (run base (.clamp n')).runUnder .faultless s = (.ok tiles.length, s'') ∧
        s''.bucket = s'.bucket := by
  intro c keys tiles batches
  have hnodup : keys.Nodup := s.bucket.nodup_keysBelow base
  have hbatches : BulkDelete.batches (pages (.clamp n) (s.bucket.entriesBelow base)) = batches := by
    rw [batches_pages_eq, Bucket.map_key_entriesBelow]
    rfl
  have hflatten : batches.flatten = tiles := by
    rw [← hbatches, flatten_batches, flatten_pages, pageKeys_entriesBelow, Bucket.tileKeys_eq]
  obtain ⟨s', hrun, hbucket, htrace⟩ := exists_run_faultless s base (.clamp n)
  rw [hbatches] at htrace
  refine ⟨fun k => s.bucket.mem_keysBelow_iff base, s.bucket.pairwise_keysBelow base, s', hrun,
    htrace, ?_, hflatten, ?_, ?_, ?_, ?_, ?_⟩
  · intro batch hbatch
    rw [← hbatches] at hbatch
    refine ⟨List.length_pos_iff.2 (ne_nil_of_mem_batches hbatch),
      length_le_of_mem_batches hbatch, fun k hk => isMetadata_of_mem_batches hbatch hk⟩
  · rw [hflatten]
    exact hnodup.filter _
  · rw [hbucket]
    rfl
  · intro k
    rw [hbucket, ← Bucket.eraseAll_tileKeys, Bucket.find?_eraseAll]
    simp [tiles, keys, Bucket.tileKeys_eq]
  · intro i
    rw [Bucket.keysBelow_eraseAll, List.filter_filter, ← filter_not_mem_take hnodup]
    refine List.filter_congr fun k _ => ?_
    by_cases hk : k ∈ keys.take (i * c) <;> simp [hk]
  · intro n'
    obtain ⟨s'', hrun', hbucket', -⟩ := exists_run_faultless s base (.clamp n')
    exact ⟨s'', hrun', hbucket'.trans hbucket.symm⟩

end BulkDelete

end TileCache
