set_option autoImplicit false

/-!
# Sorted maps

A finite map whose bindings are kept as a list in increasing order of their keys. The order is a
part of the type, so two maps with the same bindings are equal, and what a listing shows is simply
the list.

## Main definitions

* `SortedMap` — the bindings, with a proof that their keys increase.
* `SortedMap.find?`, `SortedMap.insert`, `SortedMap.erase`, `SortedMap.filter`.
* `SortedMap.ofList` — the map of a list of bindings, in which later ones win.

## Main statements

* `SortedMap.ext_entries` — a map is its list of bindings.
* `SortedMap.mem_insertEntry` — after an insertion a binding is the new one or an old one.
* `SortedMap.find?_insert` — an insertion binds its key and leaves all others as they were.
-/

namespace TileCache

variable {κ α : Type} [Ord κ]

namespace SortedMap

/-- Whether the keys of a list of bindings increase. -/
def Increasing (entries : List (κ × α)) : Prop :=
  entries.Pairwise fun a b => compare a.1 b.1 = .lt

/-- The value bound to `key` in a list of bindings. -/
def findAmong? (key : κ) : List (κ × α) → Option α
  | [] => none
  | (k, v) :: rest => if compare key k = .eq then some v else findAmong? key rest

/-- The list of bindings with `key` bound to `value`, in its place. -/
def insertEntry (key : κ) (value : α) : List (κ × α) → List (κ × α)
  | [] => [(key, value)]
  | (k, v) :: rest =>
    match compare key k with
    | .lt => (key, value) :: (k, v) :: rest
    | .eq => (key, value) :: rest
    | .gt => (k, v) :: insertEntry key value rest

/-- After an insertion a binding is the new one or was there before. -/
theorem mem_insertEntry {key : κ} {value : α} {entries : List (κ × α)} {e : κ × α}
    (h : e ∈ insertEntry key value entries) : e = (key, value) ∨ e ∈ entries := by
  induction entries with
  | nil => simpa [insertEntry] using h
  | cons first rest ih =>
    obtain ⟨k, v⟩ := first
    simp only [insertEntry] at h
    split at h
    · simpa using h
    · rcases List.mem_cons.1 h with h | h
      · exact .inl h
      · exact .inr (List.mem_cons_of_mem _ h)
    · rcases List.mem_cons.1 h with h | h
      · exact .inr (h ▸ List.mem_cons_self)
      · exact (ih h).imp id (List.mem_cons_of_mem _)

/-- An insertion keeps the order. -/
theorem increasing_insertEntry [Std.TransOrd κ] {key : κ} {value : α} {entries : List (κ × α)}
    (h : Increasing entries) : Increasing (insertEntry key value entries) := by
  induction entries with
  | nil => simp [insertEntry, Increasing]
  | cons first rest ih =>
    obtain ⟨k, v⟩ := first
    obtain ⟨hk, hrest⟩ := List.pairwise_cons.1 h
    simp only [insertEntry]
    split
    next hlt =>
      refine List.pairwise_cons.2 ⟨fun e he => ?_, h⟩
      rcases List.mem_cons.1 he with rfl | he
      · exact hlt
      · exact Std.TransCmp.lt_trans hlt (hk e he)
    next heq =>
      refine List.pairwise_cons.2 ⟨fun e he => ?_, hrest⟩
      exact Std.TransCmp.lt_of_eq_of_lt heq (hk e he)
    next hgt =>
      refine List.pairwise_cons.2 ⟨fun e he => ?_, ih hrest⟩
      rcases mem_insertEntry he with rfl | he
      · exact Std.OrientedCmp.lt_of_gt hgt
      · exact hk e he

end SortedMap

/-- A finite map as the list of its bindings in increasing order of the keys. -/
structure SortedMap (κ α : Type) [Ord κ] where
  /-- The bindings, by increasing key. -/
  entries : List (κ × α)
  /-- The keys increase. -/
  increasing : SortedMap.Increasing entries

namespace SortedMap

/-- A map is its list of bindings. -/
theorem ext_entries {m n : SortedMap κ α} (h : m.entries = n.entries) : m = n := by
  cases m; cases n; cases h; rfl

instance [DecidableEq κ] [DecidableEq α] : DecidableEq (SortedMap κ α) := fun m n =>
  if h : m.entries = n.entries then .isTrue (ext_entries h)
  else .isFalse fun e => h (e ▸ rfl)

/-- The map without bindings. -/
def empty : SortedMap κ α :=
  ⟨[], List.Pairwise.nil⟩

instance : Inhabited (SortedMap κ α) := ⟨empty⟩

/-- The value bound to a key. -/
def find? (m : SortedMap κ α) (key : κ) : Option α :=
  findAmong? key m.entries

/-- Whether a key is bound. -/
def contains (m : SortedMap κ α) (key : κ) : Bool :=
  (m.find? key).isSome

/-- The map with `key` bound to `value` and all else as before. -/
def insert [Std.TransOrd κ] (m : SortedMap κ α) (key : κ) (value : α) : SortedMap κ α :=
  ⟨insertEntry key value m.entries, increasing_insertEntry m.increasing⟩

/-- The bindings whose key passes a test. -/
def filter (m : SortedMap κ α) (keep : κ → Bool) : SortedMap κ α :=
  ⟨m.entries.filter fun e => keep e.1, m.increasing.filter _⟩

/-- The map without the binding of a key. -/
def erase (m : SortedMap κ α) (key : κ) : SortedMap κ α :=
  m.filter fun k => compare key k != .eq

/-- The keys, in increasing order. -/
def keys (m : SortedMap κ α) : List κ :=
  m.entries.map (·.1)

/-- An insertion binds its key and leaves all others as they were. -/
theorem findAmong?_insertEntry [Std.TransOrd κ] (key k : κ) (value : α) (entries : List (κ × α)) :
    findAmong? k (insertEntry key value entries) =
      if compare k key = .eq then some value else findAmong? k entries := by
  induction entries with
  | nil => simp [insertEntry, findAmong?]
  | cons first rest ih =>
    obtain ⟨k₁, v₁⟩ := first
    simp only [insertEntry]
    split
    next => simp [findAmong?]
    next heq =>
      have h : compare k k₁ = compare k key := (Std.TransCmp.congr_right heq).symm
      simp only [findAmong?, h]
      split <;> simp_all
    next hgt =>
      simp only [findAmong?, ih]
      split
      next h =>
        have hk : compare k key ≠ .eq := fun he => by
          rw [Std.TransCmp.congr_left he, hgt] at h
          cases h
        simp [hk]
      next => rfl

/-- What an insertion leaves under each key. -/
theorem find?_insert [Std.TransOrd κ] (m : SortedMap κ α) (key k : κ) (value : α) :
    (m.insert key value).find? k = if compare k key = .eq then some value else m.find? k :=
  findAmong?_insertEntry key k value m.entries

/-- A key is bound to what was inserted last. -/
theorem find?_insert_self [Std.TransOrd κ] (m : SortedMap κ α) (key : κ) (value : α) :
    (m.insert key value).find? key = some value := by
  simp [find?_insert]

/-- The map of a list of bindings; of two with one key the later wins. -/
def ofList [Std.TransOrd κ] (bindings : List (κ × α)) : SortedMap κ α :=
  bindings.foldl (fun m e => m.insert e.1 e.2) empty

/-- The map with the bindings of `n` laid over those of `m`. -/
def overlay [Std.TransOrd κ] (m n : SortedMap κ α) : SortedMap κ α :=
  n.entries.foldl (fun m e => m.insert e.1 e.2) m

end SortedMap

end TileCache
