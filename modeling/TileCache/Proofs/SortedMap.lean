import Mathlib.Algebra.Ring.Nat
import Mathlib.Data.List.Induction
import Mathlib.Data.List.Sort
import Mathlib.Data.Nat.Notation
import Mathlib.Tactic.Common
import TileCache.SortedMap
set_option autoImplicit false

/-!
# Sorted maps through their look-up

What the operations on a sorted map do to the value found under each key, and to a sum over all
bindings. The keys of the map increase, so each is bound at most once: a binding is in the list just
if it is found, and two maps in which the same is found are equal.

## Main definitions

* `TileCache.SortedMap.total` — the sum of a weight over all bindings.

## Main results

* `TileCache.SortedMap.find?_filter`, `find?_erase`, `find?_insert_eq` — what is found afterwards.
* `TileCache.SortedMap.ext_find?` — a map is what is found in it.
* `TileCache.SortedMap.perm_keys_insert` — a key that was not bound is added to the keys.
* `TileCache.SortedMap.ofList_entries` — a map is made again from its list of bindings.
* `TileCache.SortedMap.find?_ofList_eq_some_iff` — what is found in the map of a list.
* `TileCache.SortedMap.find?_overlay` — what is found where one map is laid over another.
* `TileCache.SortedMap.ofList_append` — the map of two lists is that of the second over that of the
  first.
* `TileCache.SortedMap.total_insert`, `total_erase` — how one binding counts in a sum.
-/

namespace TileCache.SortedMap

variable {κ α : Type} [Ord κ]

/-! ## What is found -/

section Lookup

variable [Std.LawfulEqOrd κ]

/-- Where the keys increase, what is found under a key is what stands beside it. -/
lemma findAmong?_eq_some_iff {entries : List (κ × α)} (h : Increasing entries) (key : κ)
    (value : α) : findAmong? key entries = some value ↔ (key, value) ∈ entries := by
  induction entries with
  | nil => simp [findAmong?]
  | cons first rest ih =>
    obtain ⟨k, v⟩ := first
    obtain ⟨hk, hrest⟩ := List.pairwise_cons.1 h
    by_cases hc : compare key k = .eq
    · obtain rfl := Std.LawfulEqCmp.eq_of_compare hc
      have hnot : ∀ v', (key, v') ∉ rest := by
        intro v' hv'
        have := hk _ hv'
        simp at this
      simp [findAmong?, hnot, eq_comm]
    · have hne : key ≠ k := by
        rintro rfl
        exact hc Std.ReflCmp.compare_self
      simp [findAmong?, hc, ih hrest, hne]

/-- What is found under a key is what it is bound to. -/
lemma find?_eq_some_iff (m : SortedMap κ α) (key : κ) (value : α) :
    m.find? key = some value ↔ (key, value) ∈ m.entries :=
  findAmong?_eq_some_iff m.increasing key value

/-- The keys are those under which something is found. -/
lemma mem_keys_iff {m : SortedMap κ α} {key : κ} :
    key ∈ m.keys ↔ ∃ value, m.find? key = some value := by
  simp only [keys, List.mem_map, find?_eq_some_iff]
  constructor
  · rintro ⟨⟨key, value⟩, hmem, rfl⟩
    exact ⟨value, hmem⟩
  · rintro ⟨value, hmem⟩
    exact ⟨(key, value), hmem, rfl⟩

/-- Under a key that passes the test, the same is found as before; under others, nothing. -/
lemma find?_filter (m : SortedMap κ α) (keep : κ → Bool) (key : κ) :
    (m.filter keep).find? key = if keep key then m.find? key else none := by
  ext value
  rw [find?_eq_some_iff]
  by_cases hk : keep key = true
  · simp [filter, hk, find?_eq_some_iff]
  · simp [filter, hk]

/-- Nothing is found under an erased key, and the same as before under all others. -/
lemma find?_erase [DecidableEq κ] (m : SortedMap κ α) (erased key : κ) :
    (m.erase erased).find? key = if key = erased then none else m.find? key := by
  rw [erase, find?_filter]
  by_cases h : key = erased
  · subst h
    simp
  · have hc : compare erased key ≠ .eq := fun hc => h (Std.LawfulEqCmp.eq_of_compare hc).symm
    simp [h, hc]

variable [Std.TransOrd κ]

/-- What an insertion leaves under each key, by equality of keys. -/
lemma find?_insert_eq [DecidableEq κ] (m : SortedMap κ α) (inserted key : κ) (value : α) :
    (m.insert inserted value).find? key = if key = inserted then some value else m.find? key := by
  rw [find?_insert]
  simp only [Std.LawfulEqCmp.compare_eq_iff_eq]

/-- **A map is what is found in it.** -/
lemma ext_find? {m n : SortedMap κ α} (h : ∀ key, m.find? key = n.find? key) : m = n := by
  apply ext_entries
  have : Std.Irrefl fun a b : κ × α => compare a.1 b.1 = .lt := ⟨fun a ha => by simp at ha⟩
  have : Std.Antisymm fun a b : κ × α => compare a.1 b.1 = .lt :=
    ⟨fun a b hab hba => by simp [Std.OrientedCmp.gt_of_lt hab] at hba⟩
  refine m.increasing.eq_of_mem_iff n.increasing ?_
  rintro ⟨key, value⟩
  rw [← find?_eq_some_iff, ← find?_eq_some_iff, h]

/-- What is inserted last stays. -/
lemma insert_insert_self (m : SortedMap κ α) (key : κ) (earlier later : α) :
    (m.insert key earlier).insert key later = m.insert key later := by
  classical
  apply ext_find?
  intro k
  simp only [find?_insert_eq]
  split_ifs <;> rfl

/-- Insertions under distinct keys can be made in either order. -/
lemma insert_comm {k₁ k₂ : κ} (h : k₁ ≠ k₂) (m : SortedMap κ α) (v₁ v₂ : α) :
    (m.insert k₁ v₁).insert k₂ v₂ = (m.insert k₂ v₂).insert k₁ v₁ := by
  classical
  apply ext_find?
  intro k
  simp only [find?_insert_eq]
  split_ifs with h₂ h₁
  · exact absurd (h₁.symm.trans h₂) h
  · rfl
  · rfl
  · rfl

end Lookup

/-! ## Building a map from its bindings -/

section Build

variable [Std.TransOrd κ]

/-- **A key that was not bound is added to the keys** by an insertion. -/
lemma perm_keys_insert {m : SortedMap κ α} {key : κ} (h : m.find? key = none) (value : α) :
    (m.insert key value).keys.Perm (key :: m.keys) := by
  obtain ⟨entries, increasing⟩ := m
  simp only [find?, insert, keys] at h ⊢
  clear increasing
  induction entries with
  | nil => exact .rfl
  | cons first rest ih =>
    obtain ⟨k, v⟩ := first
    simp only [findAmong?] at h
    split_ifs at h with hne
    simp only [insertEntry]
    split
    next => exact .rfl
    next heq => exact absurd heq hne
    next => exact ((ih h).cons k).trans (.swap ..)

/-- A key above all others is inserted at the end. -/
lemma insertEntry_of_increasing {key : κ} {value : α} {entries : List (κ × α)}
    (h : Increasing (entries ++ [(key, value)])) :
    insertEntry key value entries = entries ++ [(key, value)] := by
  induction entries with
  | nil => rfl
  | cons first rest ih =>
    obtain ⟨k, v⟩ := first
    obtain ⟨hk, hrest⟩ := List.pairwise_cons.1 h
    have hgt : compare key k = .gt := Std.OrientedCmp.gt_of_lt (hk (key, value) (by simp))
    simp [insertEntry, hgt, ih hrest]

/-- Bindings above those of a map, inserted in order, are appended. -/
lemma entries_foldl_insert (m : SortedMap κ α) (bindings : List (κ × α))
    (h : Increasing (m.entries ++ bindings)) :
    (bindings.foldl (fun m e => m.insert e.1 e.2) m).entries = m.entries ++ bindings := by
  induction bindings generalizing m with
  | nil => simp
  | cons first rest ih =>
    obtain ⟨k, v⟩ := first
    have hfirst : Increasing (m.entries ++ [(k, v)]) := by
      refine List.Pairwise.sublist ?_ h
      simp
    have hinsert : (m.insert k v).entries = m.entries ++ [(k, v)] :=
      insertEntry_of_increasing hfirst
    rw [List.foldl_cons, ih, hinsert]
    · simp
    · rw [hinsert]
      simpa using h

/-- **A map is made again from its list of bindings.** -/
lemma ofList_entries (m : SortedMap κ α) : ofList m.entries = m := by
  apply ext_entries
  have h := entries_foldl_insert empty m.entries (by simpa [empty] using m.increasing)
  simpa [ofList, empty] using h

/-- Laid over the empty map, a map is as it is. -/
@[simp]
lemma empty_overlay (m : SortedMap κ α) : overlay empty m = m :=
  m.ofList_entries

end Build

/-! ## Later bindings over earlier ones -/

section Overlay

variable [Std.TransOrd κ] [Std.LawfulEqOrd κ]

/-- After many insertions a key is bound as they bind it, or else as it was before. -/
lemma find?_foldl_insert [DecidableEq κ] (m : SortedMap κ α) (bindings : List (κ × α)) (key : κ) :
    (bindings.foldl (fun m e => m.insert e.1 e.2) m).find? key =
      ((ofList bindings).find? key).or (m.find? key) := by
  unfold ofList
  induction bindings using List.reverseRecOn with
  | nil => rfl
  | append_singleton earlier last ih =>
    simp only [List.foldl_append, List.foldl_cons, List.foldl_nil, find?_insert_eq, ih]
    by_cases h : key = last.1 <;> simp [h]

/-- A key is not bound just if no binding is of it. -/
lemma find?_ofList_eq_none_iff [DecidableEq κ] {bindings : List (κ × α)} {key : κ} :
    (ofList bindings).find? key = none ↔ ∀ e ∈ bindings, e.1 ≠ key := by
  unfold ofList
  induction bindings using List.reverseRecOn with
  | nil => simp [find?, empty, findAmong?]
  | append_singleton earlier last ih =>
    simp only [List.foldl_append, List.foldl_cons, List.foldl_nil, find?_insert_eq]
    by_cases h : key = last.1
    · exact iff_of_false (by simp [h]) fun hnone => hnone last (by simp) h.symm
    · simp [h, ih, or_imp, forall_and, Ne.symm h]

/-- **Of several bindings of one key the last one counts.** -/
lemma find?_ofList_eq_some_iff [DecidableEq κ] {bindings : List (κ × α)} {key : κ} {value : α} :
    (ofList bindings).find? key = some value ↔
      ∃ earlier later, bindings = earlier ++ (key, value) :: later ∧ ∀ e ∈ later, e.1 ≠ key := by
  constructor
  · intro h
    unfold ofList at h
    induction bindings using List.reverseRecOn with
    | nil => cases h
    | append_singleton start last ih =>
      simp only [List.foldl_append, List.foldl_cons, List.foldl_nil, find?_insert_eq] at h
      by_cases hkey : key = last.1
      · rw [if_pos hkey, Option.some_inj] at h
        exact ⟨start, [], by rw [hkey, ← h], by simp⟩
      · rw [if_neg hkey] at h
        obtain ⟨earlier, later, rfl, hlater⟩ := ih h
        refine ⟨earlier, later ++ [last], by simp, ?_⟩
        simpa [or_imp, forall_and, Ne.symm hkey] using hlater
  · rintro ⟨earlier, later, rfl, hlater⟩
    rw [ofList, List.foldl_append, List.foldl_cons, find?_foldl_insert,
      find?_ofList_eq_none_iff.2 hlater, Option.none_or, find?_insert_self]

/-- A key is bound as the upper map binds it, or else as the lower one does. -/
lemma find?_overlay [DecidableEq κ] (m n : SortedMap κ α) (key : κ) :
    (m.overlay n).find? key = (n.find? key).or (m.find? key) := by
  rw [overlay, find?_foldl_insert, ofList_entries]

/-- To insert bindings one after the other is to lay their map over. -/
lemma foldl_insert_eq_overlay [DecidableEq κ] (m : SortedMap κ α) (bindings : List (κ × α)) :
    bindings.foldl (fun m e => m.insert e.1 e.2) m = m.overlay (ofList bindings) := by
  apply ext_find?
  intro key
  rw [find?_foldl_insert, find?_overlay]

/-- **The map of two lists** is that of the second laid over that of the first. -/
lemma ofList_append [DecidableEq κ] (earlier later : List (κ × α)) :
    ofList (earlier ++ later) = (ofList earlier).overlay (ofList later) := by
  rw [ofList, List.foldl_append, foldl_insert_eq_overlay, ← ofList]

end Overlay

/-! ## Sums over the bindings -/

section Total

/-- The sum of a weight over all bindings. -/
def total (m : SortedMap κ α) (weight : κ → α → ℕ) : ℕ :=
  (m.entries.map fun e => weight e.1 e.2).sum

/-- Bindings that are left out weigh nothing. -/
lemma total_filter (m : SortedMap κ α) (keep : κ → Bool) (weight : κ → α → ℕ) :
    (m.filter keep).total weight = m.total fun k v => if keep k then weight k v else 0 := by
  simp only [total, filter]
  generalize m.entries = entries
  induction entries with
  | nil => rfl
  | cons first rest ih => by_cases h : keep first.1 <;> simp [h, ih]

variable [Std.LawfulEqOrd κ]

/-- A sum is that over all other keys and what is found under one.

**Proof sketch.** Induction on the bindings. If the first is that of the key, the key is not among
the others, for they are above it; so the induction hypothesis says that erasing it from them
changes nothing. If the first is not that of the key, it stays. -/
lemma total_erase (m : SortedMap κ α) (key : κ) (weight : κ → α → ℕ) :
    m.total weight = (m.erase key).total weight + (m.find? key).elim 0 (weight key) := by
  rw [erase, total_filter]
  obtain ⟨entries, increasing⟩ := m
  simp only [total, find?]
  induction entries with
  | nil => rfl
  | cons first rest ih =>
    obtain ⟨k, v⟩ := first
    obtain ⟨hk, hrest⟩ := List.pairwise_cons.1 increasing
    have ih := ih hrest
    by_cases hc : compare key k = .eq
    · obtain rfl := Std.LawfulEqCmp.eq_of_compare hc
      have hnone : findAmong? key rest = none := by
        rw [Option.eq_none_iff_forall_ne_some]
        intro v' hv'
        have := hk _ ((findAmong?_eq_some_iff hrest key v').1 hv')
        simp at this
      simp only [hnone, Option.elim_none, Nat.add_zero] at ih
      simp [findAmong?, ih, Nat.add_comm]
    · have hne : (compare key k != .eq) = true := by simpa using hc
      simp only [List.map_cons, List.sum_cons, findAmong?, if_neg hc, hne, ↓reduceIte]
      omega

/-- After an insertion a sum is that over all other keys and the new binding. -/
lemma total_insert [Std.TransOrd κ] [DecidableEq κ] (m : SortedMap κ α) (key : κ) (value : α)
    (weight : κ → α → ℕ) :
    (m.insert key value).total weight = (m.erase key).total weight + weight key value := by
  rw [total_erase _ key, find?_insert_self]
  congr 2
  apply ext_find?
  intro k
  simp only [find?_erase, find?_insert_eq]
  split_ifs <;> rfl

end Total

end TileCache.SortedMap
