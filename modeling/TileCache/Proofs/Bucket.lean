import TileCache.Bucket
import TileCache.Layout
import TileCache.Proofs.SortedMap
set_option autoImplicit false

/-!
# Buckets through their look-up

What each change of a bucket leaves under each key, and what is strictly below a key. The objects
below a key that are not metadata are what a bulk deletion takes away.

## Main definitions

* `TileCache.Bucket.keysBelow` — the keys strictly below a key, in the order of a listing.
* `TileCache.Bucket.tileKeys` — the same, those of metadata apart.
* `TileCache.Bucket.clearBelow` — the bucket without the objects with such keys.
* `TileCache.Bucket.IsTileKey` — what keys they have.
* `TileCache.Bucket.Thinned` — a bucket without some of the objects of another.

## Main results

* `TileCache.Bucket.find?_put`, `find?_erase`, `find?_eraseAll`, `find?_clearBelow` — what is found
  afterwards.
* `TileCache.Bucket.ext_find?` — a bucket is its clock and what is found in it.
* `TileCache.Bucket.mem_tileKeys_iff` — which keys these are.
* `TileCache.Bucket.Thinned.find?_of_not`, `Thinned.trans` — what such a bucket still holds.
-/

namespace TileCache.Bucket

variable (b : Bucket) (base : Key)

/-! ## What is found -/

/-- A bucket is its clock and what is found in it. -/
lemma ext_find? {b b' : Bucket} (hclock : b.clock = b'.clock)
    (hfind : ∀ k, b.find? k = b'.find? k) : b = b' := by
  obtain ⟨objects, clock⟩ := b
  obtain ⟨objects', clock'⟩ := b'
  obtain rfl : objects = objects' := SortedMap.ext_find? hfind
  obtain rfl : clock = clock' := hclock
  rfl

/-- After a write, the new object is found under its key and all others under theirs. -/
lemma find?_put (key k : Key) (data : Octets) (contentType : String) :
    (b.put key data contentType).find? k =
      if k = key then some ⟨data, contentType, b.clock + 1⟩ else b.find? k :=
  SortedMap.find?_insert_eq ..

/-- Nothing is found under an erased key. -/
lemma find?_erase (key k : Key) :
    (b.erase key).find? k = if k = key then none else b.find? k :=
  SortedMap.find?_erase ..

/-- Without an object there is nothing to erase. -/
lemma erase_of_find?_eq_none {key : Key} (h : b.find? key = none) : b.erase key = b := by
  refine ext_find? rfl fun k => ?_
  rw [find?_erase]
  split_ifs with hk
  · rw [hk, h]
  · rfl

/-- Nothing is found under keys that pass the test. -/
lemma find?_eraseAll (gone : Key → Bool) (k : Key) :
    (b.eraseAll gone).find? k = if gone k then none else b.find? k := by
  rw [find?, eraseAll, SortedMap.find?_filter]
  cases h : gone k <;> simp [find?]

/-- A write takes one tick. -/
@[simp]
lemma clock_put (key : Key) (data : Octets) (contentType : String) :
    (b.put key data contentType).clock = b.clock + 1 := rfl

/-- A write under a key that was not there adds it to the keys. -/
lemma perm_keys_put {b : Bucket} {key : Key} (h : b.find? key = none) (data : Octets)
    (contentType : String) :
    (b.put key data contentType).objects.keys.Perm (key :: b.objects.keys) :=
  SortedMap.perm_keys_insert h _

/-- Without a key that passes the test, nothing is erased. -/
lemma eraseAll_of_forall {gone : Key → Bool} (h : ∀ k o, b.find? k = some o → gone k = false) :
    b.eraseAll gone = b := by
  refine ext_find? rfl fun k => ?_
  rw [find?_eraseAll]
  cases hfind : b.find? k with
  | none => simp
  | some o => simp [h k o hfind]

/-- Two deletions of many are one of the keys that pass either test. -/
lemma eraseAll_eraseAll (gone gone' : Key → Bool) :
    (b.eraseAll gone).eraseAll gone' = b.eraseAll fun k => gone k || gone' k := by
  refine ext_find? rfl fun k => ?_
  simp only [find?_eraseAll]
  cases gone k <;> cases gone' k <;> rfl

/-! ## What is below a key -/

/-- What is below a key is what is found with a key below it. -/
lemma mem_below_iff {k : Key} {o : StoredObject} :
    (k, o) ∈ b.below base ↔ b.find? k = some o ∧ k.isBelow base = true := by
  rw [below, List.mem_filter, find?, SortedMap.find?_eq_some_iff]

/-- The keys strictly below a key, in increasing order. -/
def keysBelow : List Key :=
  (b.below base).map (·.1)

/-- Those keys under which something is found. -/
lemma mem_keysBelow_iff {k : Key} :
    k ∈ b.keysBelow base ↔ (∃ o, b.find? k = some o) ∧ k.isBelow base = true := by
  simp [keysBelow, mem_below_iff]

/-- The keys below a key increase. -/
lemma pairwise_keysBelow : (b.keysBelow base).Pairwise fun k k' => compare k k' = .lt := by
  rw [keysBelow, List.pairwise_map]
  exact b.objects.increasing.filter _

/-- No key is listed twice. -/
lemma nodup_keysBelow : (b.keysBelow base).Nodup := by
  refine (b.pairwise_keysBelow base).imp ?_
  rintro k k' hlt rfl
  simp at hlt

/-- The keys strictly below a key are among all keys. -/
lemma keysBelow_eq : b.keysBelow base = b.objects.keys.filter fun k => k.isBelow base := by
  rw [SortedMap.keys, List.filter_map]
  rfl

/-- Where nothing is below a key, nothing is found under the keys below it. -/
lemma find?_eq_none_of_isBelow {b : Bucket} {base k : Key}
    (hempty : ∀ k o, b.find? k = some o → k.isBelow base = false) (hk : k.isBelow base = true) :
    b.find? k = none := by
  rw [Option.eq_none_iff_forall_ne_some]
  intro o ho
  rw [hempty k o ho] at hk
  cases hk

/-- Where nothing was below a key, what is below it afterwards are the keys that were added, if
these are below it. -/
lemma perm_keysBelow {b b' : Bucket} {base : Key} {added : List Key}
    (hperm : b'.objects.keys.Perm (added ++ b.objects.keys))
    (hadded : ∀ k ∈ added, k.isBelow base = true)
    (hempty : ∀ k o, b.find? k = some o → k.isBelow base = false) :
    (b'.keysBelow base).Perm added := by
  have hold : (b.objects.keys.filter fun k => k.isBelow base) = [] := by
    rw [List.filter_eq_nil_iff]
    intro k hk
    obtain ⟨o, ho⟩ := SortedMap.mem_keys_iff.1 hk
    simp [hempty k o ho]
  have hfilter := hperm.filter fun k => k.isBelow base
  rwa [List.filter_append, List.filter_eq_self.2 hadded, hold, List.append_nil, ← keysBelow_eq]
    at hfilter

/-- What is erased is not listed, and all else in the same order. -/
lemma keysBelow_eraseAll (gone : Key → Bool) :
    (b.eraseAll gone).keysBelow base = (b.keysBelow base).filter fun k => !gone k := by
  simp only [keysBelow, below, eraseAll, SortedMap.filter, List.filter_map, List.filter_filter]
  simp only [Function.comp_def, Bool.and_comm]

/-- The keys strictly below a key, those of metadata apart, in increasing order. -/
def tileKeys : List Key :=
  ((b.below base).map (·.1)).filter fun key => !Layout.isMetadata key

/-- Those keys under which something is found that is not metadata. -/
lemma mem_tileKeys_iff {k : Key} :
    k ∈ b.tileKeys base ↔
      (∃ o, b.find? k = some o) ∧ k.isBelow base = true ∧ Layout.isMetadata k = false := by
  simp [tileKeys, mem_below_iff, and_assoc]

/-- The listed keys, those of metadata apart. -/
lemma tileKeys_eq : b.tileKeys base = (b.keysBelow base).filter fun key => !Layout.isMetadata key :=
  rfl

/-- The bucket without the objects strictly below a key, metadata apart. -/
def clearBelow : Bucket :=
  b.eraseAll fun k => k.isBelow base && !Layout.isMetadata k

/-- Of what is strictly below the key, only metadata is found. -/
lemma find?_clearBelow (k : Key) :
    (b.clearBelow base).find? k =
      if k.isBelow base && !Layout.isMetadata k then none else b.find? k :=
  b.find?_eraseAll _ k

/-- Without such keys there is nothing to clear. -/
lemma clearBelow_of_tileKeys_eq_nil (h : b.tileKeys base = []) : b.clearBelow base = b := by
  refine b.eraseAll_of_forall ?_
  intro k o hfind
  by_contra hgone
  have hmem : k ∈ b.tileKeys base := (b.mem_tileKeys_iff base).2 ⟨⟨o, hfind⟩, by simpa using hgone⟩
  simp [h] at hmem

/-- To erase the keys below a key, those of metadata apart, is to clear what is below it. -/
lemma eraseAll_tileKeys :
    (b.eraseAll fun k => (b.tileKeys base).contains k) = b.clearBelow base := by
  refine ext_find? rfl fun k => ?_
  rw [find?_eraseAll, find?_clearBelow]
  cases hfind : b.find? k with
  | none => simp
  | some o => simp [mem_tileKeys_iff, hfind]

/-- A key of the tiles below a key: strictly below it, and not called like metadata. -/
def IsTileKey (base k : Key) : Prop :=
  k.isBelow base = true ∧ Layout.isMetadata k = false

/-- It is decided by looking at the key. -/
instance : DecidableRel IsTileKey :=
  fun base k => inferInstanceAs (Decidable (k.isBelow base = true ∧ Layout.isMetadata k = false))

/-- Metadata is no tile. -/
lemma not_isTileKey_of_isMetadata {base k : Key} (h : Layout.isMetadata k = true) :
    ¬IsTileKey base k :=
  fun htile => Bool.false_ne_true (htile.2.symm.trans h)

/-! ## Less of a bucket -/

/-- `b'` is `b` without some of the objects with keys that satisfy `P`. -/
structure Thinned (P : Key → Prop) (b b' : Bucket) : Prop where
  clock_eq : b'.clock = b.clock
  find?_eq : ∀ k, b'.find? k = b.find? k ∨ P k ∧ b'.find? k = none

namespace Thinned

variable {P Q : Key → Prop} {b b' b'' : Bucket}

/-- Nothing need be missing. -/
lemma refl (P : Key → Prop) (b : Bucket) : Thinned P b b :=
  ⟨rfl, fun _ => .inl rfl⟩

/-- What is missing in two steps is missing. -/
lemma trans (h : Thinned P b b') (h' : Thinned P b' b'') : Thinned P b b'' := by
  refine ⟨h'.clock_eq.trans h.clock_eq, fun k => ?_⟩
  rcases h'.find?_eq k with heq | hgone
  · rw [heq]
    exact h.find?_eq k
  · exact .inr hgone

/-- More may be missing. -/
lemma mono (h : Thinned P b b') (hPQ : ∀ k, P k → Q k) : Thinned Q b b' :=
  ⟨h.clock_eq, fun k => (h.find?_eq k).imp_right fun hgone => ⟨hPQ k hgone.1, hgone.2⟩⟩

/-- What cannot be missing is found. -/
lemma find?_of_not (h : Thinned P b b') {k : Key} (hk : ¬P k) : b'.find? k = b.find? k :=
  (h.find?_eq k).resolve_right fun hgone => hk hgone.1

/-- Erasing many keys leaves a bucket without them. -/
lemma of_eraseAll {gone : Key → Bool} (h : ∀ k, gone k = true → P k) :
    Thinned P b (b.eraseAll gone) := by
  refine ⟨rfl, fun k => ?_⟩
  rw [find?_eraseAll]
  split_ifs with hk
  · exact .inr ⟨h k hk, rfl⟩
  · exact .inl rfl

/-- Erasing one key leaves a bucket without it. -/
lemma of_erase {key : Key} (h : P key) : Thinned P b (b.erase key) := by
  refine ⟨rfl, fun k => ?_⟩
  rw [find?_erase]
  split_ifs with hk
  · exact .inr ⟨hk ▸ h, rfl⟩
  · exact .inl rfl

end Thinned

end TileCache.Bucket
