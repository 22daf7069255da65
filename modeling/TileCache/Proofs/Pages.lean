import Mathlib.Tactic.Common
import TileCache.Proofs.Bucket
import TileCache.BulkDelete
set_option autoImplicit false

/-!
# The pages of a bulk deletion and its batches

A bulk deletion cuts what is listed into pages of equal size and takes the metadata out of each page
afterwards, so that a batch may hold fewer keys than a page, and a page may make no batch at all.

## Main definitions

* `TileCache.BulkDelete.chunks` — consecutive chunks of a list, by the places where they begin.
* `TileCache.BulkDelete.batches` — the batches that pages make.

## Main results

* `TileCache.BulkDelete.pages_eq_chunks` — pages are consecutive chunks.
* `TileCache.BulkDelete.flatten_pages` — the pages of a list hold its items, in order.
* `TileCache.BulkDelete.batches_pages_eq` — the batches of a listing are its chunks, filtered.
-/

namespace TileCache.BulkDelete

variable {α β : Type} (size : BatchSize)

/-! ## Pages -/

/-- The consecutive chunks of `n` items: chunk number `i` begins with item number `i * n`. -/
def chunks (n : ℕ) (items : List α) : List (List α) :=
  (List.range ((items.length + (n - 1)) / n)).map fun i => (items.drop (i * n)).take n

/-- The first chunk is taken from the beginning, the others from what it leaves. -/
lemma chunks_of_ne_nil {n : ℕ} (hn : 0 < n) {items : List α} (h : items ≠ []) :
    chunks n items = items.take n :: chunks n (items.drop n) := by
  have hpos : 0 < items.length := List.length_pos_iff.2 h
  have hcount : (items.length + (n - 1)) / n = ((items.drop n).length + (n - 1)) / n + 1 := by
    rw [List.length_drop]
    by_cases hle : n ≤ items.length
    · rw [← Nat.add_div_right _ hn]
      congr 1
      omega
    · rw [Nat.div_eq_of_lt_le (k := 1) (by omega) (by omega),
        Nat.div_eq_of_lt (by omega)]
  have hshift (i : ℕ) : items.drop ((i + 1) * n) = (items.drop n).drop (i * n) := by
    rw [List.drop_drop, Nat.succ_mul, Nat.add_comm]
  simp only [chunks, hcount, List.range_succ_eq_map, List.map_cons, List.map_map, Nat.zero_mul,
    List.drop_zero, Function.comp_def, Nat.succ_eq_add_one, hshift]

/-- **Pages are consecutive chunks.** -/
lemma pages_eq_chunks (items : List α) : pages size items = chunks size.val items := by
  induction items using pages.induct size with
  | case1 => simp [pages, chunks, Nat.div_eq_of_lt (Nat.sub_lt size.pos Nat.one_pos)]
  | case2 a rest ih => rw [pages, ih, ← chunks_of_ne_nil size.pos (List.cons_ne_nil a rest)]

/-- Chunks of what a list is mapped to are mapped chunks. -/
lemma chunks_map (n : ℕ) (f : α → β) (items : List α) :
    chunks n (items.map f) = (chunks n items).map (List.map f) := by
  simp [chunks, List.map_take, List.map_drop]

/-- No chunk is longer than its size. -/
lemma length_le_of_mem_chunks {n : ℕ} {items chunk : List α} (h : chunk ∈ chunks n items) :
    chunk.length ≤ n := by
  obtain ⟨i, -, rfl⟩ := List.mem_map.1 h
  exact List.length_take_le n _

/-- The pages of a list hold its items, in order. -/
lemma flatten_pages (items : List α) : (pages size items).flatten = items := by
  induction items using pages.induct size with
  | case1 => simp [pages]
  | case2 a rest ih => rw [pages, List.flatten_cons, ih, List.take_append_drop]

/-- The chunks of the first items, where these fill chunks, are the first chunks. -/
lemma chunks_take {n : ℕ} (hn : 0 < n) (items : List α) {j : ℕ} (h : j * n ≤ items.length) :
    chunks n (items.take (j * n)) = (chunks n items).take j := by
  have hcount : ((items.take (j * n)).length + (n - 1)) / n = j := by
    rw [List.length_take_of_le h, Nat.mul_comm, Nat.mul_add_div hn,
      Nat.div_eq_of_lt (Nat.sub_lt hn Nat.one_pos), Nat.add_zero]
  have hle : j ≤ (items.length + (n - 1)) / n :=
    (Nat.le_div_iff_mul_le hn).2 (Nat.le_add_right_of_le h)
  rw [chunks, chunks, hcount, ← List.map_take, List.take_range, Nat.min_eq_left hle]
  refine List.map_congr_left fun i hi => ?_
  have hi : (i + 1) * n ≤ j * n := Nat.mul_le_mul_right n (List.mem_range.1 hi)
  rw [Nat.succ_mul] at hi
  rw [List.drop_take, List.take_take, Nat.min_eq_left (by omega)]

/-- The first chunks, where these are full, hold the first items. -/
lemma flatten_take_chunks (items : List α) {j : ℕ} (h : j * size.val ≤ items.length) :
    ((chunks size.val items).take j).flatten = items.take (j * size.val) := by
  rw [← chunks_take size.pos items h, ← pages_eq_chunks, flatten_pages]

/-- The full pages of a list are as many of its chunks as its items fill. -/
lemma fullPages_eq (items : List α) :
    fullPages size items = (chunks size.val items).take (items.length / size.val) := by
  rw [fullPages, pages_eq_chunks, chunks_take size.pos items (Nat.div_mul_le_self _ _)]

/-- In a list without repetitions, what is not among the first items comes behind them. -/
lemma filter_not_mem_take [DecidableEq α] {items : List α} (h : items.Nodup) (n : ℕ) :
    items.filter (fun a => a ∉ items.take n) = items.drop n := by
  have hdisjoint : ∀ a ∈ items.drop n, a ∉ items.take n := by
    rw [← List.take_append_drop n items, List.nodup_append] at h
    exact fun a hdrop htake => h.2.2 a htake a hdrop rfl
  calc items.filter (fun a => a ∉ items.take n)
      = (items.take n ++ items.drop n).filter (fun a => a ∉ items.take n) := by
        rw [List.take_append_drop]
    _ = [] ++ items.drop n := by
        rw [List.filter_append]
        congr 1
        · simp
        · exact List.filter_eq_self.2 fun a ha => by simpa using hdisjoint a ha
    _ = items.drop n := rfl

/-! ## Batches -/

/-- The batches that pages make: their keys to be deleted, without pages that have none. -/
def batches (pages : List (List Entry)) : List (List Key) :=
  (pages.map pageKeys).filter fun keys => !keys.isEmpty

/-- A page without keys to be deleted makes no batch. -/
lemma batches_cons_of_eq_nil {page : List Entry} (h : pageKeys page = [])
    (rest : List (List Entry)) : batches (page :: rest) = batches rest := by
  simp [batches, h]

/-- A page with keys to be deleted makes one batch of them. -/
lemma batches_cons_of_ne_nil {page : List Entry} (h : pageKeys page ≠ [])
    (rest : List (List Entry)) : batches (page :: rest) = pageKeys page :: batches rest := by
  simp [batches, h]

/-- No batch is empty. -/
lemma ne_nil_of_mem_batches {pages : List (List Entry)} {keys : List Key}
    (h : keys ∈ batches pages) : keys ≠ [] := by
  simpa using (List.mem_filter.1 h).2

/-- No batch holds a key of metadata. -/
lemma isMetadata_of_mem_batches {pages : List (List Entry)} {keys : List Key} {k : Key}
    (h : keys ∈ batches pages) (hk : k ∈ keys) : Layout.isMetadata k = false := by
  obtain ⟨page, -, rfl⟩ := List.mem_map.1 (List.mem_filter.1 h).1
  simpa using (List.mem_filter.1 hk).2

/-- No batch is longer than a page. -/
lemma length_le_of_mem_batches {size : BatchSize} {entries : List Entry} {keys : List Key}
    (h : keys ∈ batches (pages size entries)) : keys.length ≤ size.val := by
  obtain ⟨page, hpage, rfl⟩ := List.mem_map.1 (List.mem_filter.1 h).1
  rw [pages_eq_chunks] at hpage
  calc (pageKeys page).length ≤ (page.map (·.key)).length := List.length_filter_le _ _
    _ = page.length := List.length_map _
    _ ≤ size.val := length_le_of_mem_chunks hpage

/-- The keys of the batches are the keys of all entries that are to be deleted. -/
lemma flatten_batches (pages : List (List Entry)) :
    (batches pages).flatten = pageKeys pages.flatten := by
  rw [batches, List.flatten_filter_not_isEmpty, pageKeys, List.map_flatten, List.filter_flatten,
    List.map_map]
  rfl

/-- **The batches of a listing are its chunks**, without metadata and without those that held
nothing else. -/
lemma batches_pages_eq (entries : List Entry) :
    batches (pages size entries) =
      ((chunks size.val (entries.map (·.key))).map
        (List.filter fun k => !Layout.isMetadata k)).filter (· ≠ []) := by
  rw [batches, pages_eq_chunks, chunks_map, List.map_map]
  congr 1
  funext keys
  cases keys <;> simp

end TileCache.BulkDelete
