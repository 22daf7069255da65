import TileCache.Proofs.Bucket
import TileCache.Proofs.Subtree
set_option autoImplicit false

/-!
# The bytes of a gridset

How many bytes the tiles of a gridset occupy in a bucket: the sum of the sizes of all objects
strictly below its key that are not metadata. One write or one deletion changes the sum by the sizes
before and after, and only if the key is below.

## Main definitions

* `TileCache.Bucket.tileBytes` — the bytes strictly below a key, metadata apart.
* `TileCache.Layout.tileBytes` — the bytes of a gridset.

## Main results

* `TileCache.Layout.tileBytes_put_tile`, `tileBytes_erase_tile` — what one tile changes.
* `TileCache.Layout.tileBytes_put_metadata`, `tileBytes_erase_metadata` — metadata changes nothing.
* `TileCache.Layout.tileBytes_clearBelow_layer`, `tileBytes_clearBelow_gridset` — what removing a
  layer or a gridset changes.
-/

namespace TileCache

/-! ## Below a key -/

namespace Bucket

variable (b : Bucket) (base : Key)

/-- Whether a key is strictly below another and not that of metadata. -/
def counts (k : Key) : Bool :=
  k.isBelow base && !Layout.isMetadata k

/-- The bytes of the objects strictly below a key, metadata apart. -/
def tileBytes : ℕ :=
  b.objects.total fun k o => if counts base k then o.size else 0

/-- The bytes of the object under a key, of which there are none if there is no object. -/
def sizeAt (k : Key) : ℕ :=
  (b.find? k).elim 0 StoredObject.size

/-- What is under a key adds its size if the key counts. -/
lemma elim_size (k : Key) :
    (b.find? k).elim 0 (fun o => if counts base k then o.size else 0) =
      if counts base k then b.sizeAt k else 0 := by
  unfold sizeAt
  cases b.find? k <;> simp

/-- A write replaces what was under its key. -/
lemma tileBytes_put (k : Key) (data : Octets) (contentType : String) :
    (b.put k data contentType).tileBytes base + (if counts base k then b.sizeAt k else 0) =
      b.tileBytes base + if counts base k then data.length else 0 := by
  rw [← elim_size, tileBytes, put, SortedMap.total_insert, tileBytes, b.objects.total_erase k,
    find?]
  simp only [StoredObject.size]
  omega

/-- A deletion takes away what was under its key. -/
lemma tileBytes_erase (k : Key) :
    (b.erase k).tileBytes base + (if counts base k then b.sizeAt k else 0) = b.tileBytes base := by
  rw [← elim_size, tileBytes, tileBytes, b.objects.total_erase k, find?]
  rfl

/-- Clearing below a key takes away nothing if no key is below both. -/
lemma tileBytes_clearBelow_of_disjoint {base base' : Key}
    (h : ∀ k : Key, k.isBelow base = true → k.isBelow base' = false) :
    (b.clearBelow base').tileBytes base = b.tileBytes base := by
  rw [tileBytes, clearBelow, eraseAll, SortedMap.total_filter]
  congr 1
  funext k o
  cases hk : k.isBelow base <;> simp [counts, hk, h]

/-- Clearing below a key takes away everything that is below it. -/
lemma tileBytes_clearBelow_of_subset {base base' : Key}
    (h : ∀ k : Key, k.isBelow base = true → k.isBelow base' = true) :
    (b.clearBelow base').tileBytes base = 0 := by
  have hzero : ∀ (k : Key) (o : StoredObject), (if !(k.isBelow base' && !Layout.isMetadata k)
      then (if counts base k then o.size else 0) else 0) = 0 := by
    intro k o
    cases hk : k.isBelow base <;> cases hm : Layout.isMetadata k <;> simp [counts, hk, hm, h]
  rw [tileBytes, clearBelow, eraseAll, SortedMap.total_filter]
  simp only [hzero, SortedMap.total]
  simp

end Bucket

/-! ## The bytes of a gridset -/

namespace Layout

open Bucket

/-- The bytes of the tiles of a gridset, of which there are none if it has no key. -/
def tileBytes (l : Layout) (b : Bucket) (n g : String) : ℕ :=
  match l.gridset n g with
  | .ok base => b.tileBytes base
  | .error _ => 0

variable {l : Layout} {b : Bucket} {t : Tile} {n g n' g' : String} {k base : Key}

/-- Without a key there are no bytes. -/
lemma tileBytes_of_error {e : StorageError} (h : l.gridset n g = .error e) :
    l.tileBytes b n g = 0 := by
  rw [tileBytes, h]

/-- With a key the bytes are those below it. -/
lemma tileBytes_of_ok (h : l.gridset n g = .ok base) : l.tileBytes b n g = b.tileBytes base := by
  rw [tileBytes, h]

/-- A tile with a key is in a gridset with a key. -/
lemma gridset_ne_error_of_tile (ht : l.tile t = .ok k) (e : StorageError) :
    l.gridset t.layer t.gridset ≠ .error e := by
  rw [tile, bind_eq_ok_iff] at ht
  obtain ⟨base, hbase, -⟩ := ht
  simp [hbase]

/-- The key of a tile counts for its gridset. -/
lemma counts_tile (ht : l.tile t = .ok k) (hb : l.gridset n g = .ok base) :
    counts base k = true ↔ t.layer = n ∧ t.gridset = g := by
  rw [counts, isMetadata_tile ht, Bool.not_false, Bool.and_true, tile_isBelow_gridset ht hb]

/-- The key of metadata counts for nothing. -/
lemma counts_metadata (hm : l.metadata n = .ok k) : counts base k = false := by
  simp [counts, isMetadata_metadata hm]

/-- **A tile that is written** replaces the bytes that were under its key, in its own gridset. -/
lemma tileBytes_put_tile (ht : l.tile t = .ok k) (data : Octets) (contentType : String)
    (n g : String) :
    l.tileBytes (b.put k data contentType) n g +
        (if t.layer = n ∧ t.gridset = g then b.sizeAt k else 0) =
      l.tileBytes b n g + if t.layer = n ∧ t.gridset = g then data.length else 0 := by
  cases hb : l.gridset n g with
  | error e =>
    have hnot : ¬(t.layer = n ∧ t.gridset = g) := by
      rintro ⟨rfl, rfl⟩
      exact gridset_ne_error_of_tile ht e hb
    simp only [tileBytes_of_error hb, if_neg hnot]
  | ok base =>
    have hput := b.tileBytes_put base k data contentType
    simpa only [tileBytes_of_ok hb, counts_tile ht hb] using hput

/-- **A tile that is removed** takes away the bytes that were under its key, in its own gridset. -/
lemma tileBytes_erase_tile (ht : l.tile t = .ok k) (n g : String) :
    l.tileBytes (b.erase k) n g + (if t.layer = n ∧ t.gridset = g then b.sizeAt k else 0) =
      l.tileBytes b n g := by
  cases hb : l.gridset n g with
  | error e =>
    have hnot : ¬(t.layer = n ∧ t.gridset = g) := by
      rintro ⟨rfl, rfl⟩
      exact gridset_ne_error_of_tile ht e hb
    simp only [tileBytes_of_error hb, if_neg hnot]
  | ok base =>
    have herase := b.tileBytes_erase base k
    simpa only [tileBytes_of_ok hb, counts_tile ht hb] using herase

/-- Metadata that is written changes no bytes of tiles. -/
lemma tileBytes_put_metadata (hm : l.metadata n' = .ok k) (data : Octets) (contentType : String)
    (n g : String) : l.tileBytes (b.put k data contentType) n g = l.tileBytes b n g := by
  cases hb : l.gridset n g with
  | error e => simp only [tileBytes_of_error hb]
  | ok base =>
    have hput := b.tileBytes_put base k data contentType
    simpa [tileBytes_of_ok hb, counts_metadata hm] using hput

/-- Metadata that is removed changes no bytes of tiles. -/
lemma tileBytes_erase_metadata (hm : l.metadata n' = .ok k) (n g : String) :
    l.tileBytes (b.erase k) n g = l.tileBytes b n g := by
  cases hb : l.gridset n g with
  | error e => simp only [tileBytes_of_error hb]
  | ok base =>
    have herase := b.tileBytes_erase base k
    simpa [tileBytes_of_ok hb, counts_metadata hm] using herase

/-- **A layer that is removed** leaves no bytes in its gridsets and all bytes in others. -/
lemma tileBytes_clearBelow_layer (hb' : l.layer n' = .ok base) (n g : String) :
    l.tileBytes (b.clearBelow base) n g = if n = n' then 0 else l.tileBytes b n g := by
  cases hb : l.gridset n g with
  | error e => simp [tileBytes_of_error hb]
  | ok base' =>
    obtain ⟨base'', hlayer, hbelow⟩ := exists_layer_of_gridset hb
    simp only [tileBytes_of_ok hb]
    split_ifs with heq
    · subst heq
      rw [hlayer] at hb'
      cases hb'
      exact b.tileBytes_clearBelow_of_subset hbelow
    · refine b.tileBytes_clearBelow_of_disjoint fun k hk => ?_
      rw [Bool.eq_false_iff]
      exact fun hk' => heq (layer_eq_of_isBelow hlayer hb' (hbelow k hk) hk')

/-- **A gridset that is removed** has no bytes afterwards, and others have theirs. -/
lemma tileBytes_clearBelow_gridset (hb' : l.gridset n' g' = .ok base) (n g : String) :
    l.tileBytes (b.clearBelow base) n g =
      if n = n' ∧ g = g' then 0 else l.tileBytes b n g := by
  cases hb : l.gridset n g with
  | error e => simp [tileBytes_of_error hb]
  | ok base' =>
    simp only [tileBytes_of_ok hb]
    split_ifs with heq
    · obtain ⟨rfl, rfl⟩ := heq
      rw [hb] at hb'
      cases hb'
      exact b.tileBytes_clearBelow_of_subset fun k hk => hk
    · refine b.tileBytes_clearBelow_of_disjoint fun k hk => ?_
      rw [Bool.eq_false_iff]
      exact fun hk' => heq (gridset_eq_of_isBelow hb hb' hk hk')

end Layout

end TileCache
