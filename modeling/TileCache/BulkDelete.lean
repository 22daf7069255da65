import TileCache.Backend
import TileCache.Layout
set_option autoImplicit false

/-!
# Deleting everything below a key

The objects strictly below a key are listed and deleted page by page; each page becomes one batch.
Metadata objects are left out of the batches, and a page that holds nothing else is passed over. The
first request that fails ends the deletion: a listing that breaks off does so after its full pages.

## Main definitions

* `BatchSize` — a number of keys between one and `maxBatchSize`.
* `BulkDelete.pages` — consecutive pages of a list.
* `BulkDelete.run` — the deletion, which returns how many keys it submitted.
-/

namespace TileCache

/-- How many keys a page may hold. -/
structure BatchSize where
  val : Nat
  pos : 0 < val
  le_max : val ≤ maxBatchSize
  deriving DecidableEq

namespace BatchSize

/-- The batch size nearest to a number. -/
def clamp (n : Nat) : BatchSize where
  val := max 1 (min n maxBatchSize)
  pos := by omega
  le_max := by
    have : 1 ≤ maxBatchSize := by decide
    omega

/-- The largest batch size. -/
def largest : BatchSize :=
  ⟨maxBatchSize, by decide, Nat.le_refl _⟩

end BatchSize

namespace BulkDelete

variable {α : Type}

/-- The consecutive pages of a list, each of `size` items but for the last. -/
def pages (size : BatchSize) (items : List α) : List (List α) :=
  match items with
  | [] => []
  | a :: rest => (a :: rest).take size.val :: pages size ((a :: rest).drop size.val)
  termination_by items.length
  decreasing_by
    have := size.pos
    simp only [List.length_drop, List.length_cons]
    omega

/-- The pages of a list that are full. -/
def fullPages (size : BatchSize) (items : List α) : List (List α) :=
  pages size (items.take (items.length / size.val * size.val))

/-- The pages that a listing yields before it ends or breaks off. -/
def listedPages (size : BatchSize) (l : Listing) : List (List Entry) :=
  match l.failure with
  | none => pages size l.entries
  | some _ => fullPages size l.entries

/-- The keys of a page that are to be deleted. -/
def pageKeys (page : List Entry) : List Key :=
  (page.map (·.key)).filter fun key => !Layout.isMetadata key

/-- Deletes pages, one batch each, and returns how many keys were submitted in addition to
`submitted`. -/
def submit (submitted : Nat) : List (List Entry) → RequestM Nat
  | [] => return submitted
  | page :: rest => do
    let keys := pageKeys page
    if keys.isEmpty then submit submitted rest
    else
      Backend.deleteBatch keys
      submit (submitted + keys.length) rest

/-- Deletes everything strictly below a key but metadata, and returns how many keys were submitted.
The counter moves only when all went well. -/
def run (base : Key) (size : BatchSize) : RequestM Nat := do
  let listing ← Backend.list base
  let submitted ← submit 0 (listedPages size listing)
  match listing.failure with
  | some error => throw error
  | none =>
    Backend.count fun c => { c with bulkDeleted := c.bulkDeleted + submitted }
    return submitted

end BulkDelete

end TileCache
