import TileCache.Directory
import TileCache.Proofs.Layout
import TileCache.Proofs.SortedMap
set_option autoImplicit false

/-!
# Files that are written

A file that is written can be read again by the same path. For a write takes no folder away, so that
the path leads to the place that it led to before.

## Main results

* `TileCache.Directory.resolve_put` — a path leads to its place after a file is put somewhere.
* `TileCache.Directory.read_write` — a file that is written is read back.
-/

namespace TileCache

/-- What was bound stays bound after an insertion. -/
lemma SortedMap.mem_keys_insert {κ α : Type} [Ord κ] [Std.TransOrd κ] [Std.LawfulEqOrd κ]
    {m : SortedMap κ α} {key : κ} (h : key ∈ m.keys) (inserted : κ) (value : α) :
    key ∈ (m.insert inserted value).keys := by
  classical
  rw [mem_keys_iff] at h ⊢
  rw [find?_insert_eq]
  split_ifs
  · exact ⟨value, rfl⟩
  · exact h

namespace Directory

variable {d d' : Directory} {place target : Place} {data : Octets} {path : String}

/-- To put a file somewhere takes no folder away. -/
lemma isFolder_put (h : d.isFolder place = true) (at' : Place) (data : Octets) :
    (d.put at' data).isFolder place = true := by
  simp only [isFolder, Bool.or_eq_true, List.any_eq_true] at h ⊢
  rcases h with h | ⟨file, hfile, hbelow⟩
  · exact .inl h
  · exact .inr ⟨file, SortedMap.mem_keys_insert hfile _ _, hbelow⟩

/-- The pieces of a path lead to the place that they led to before. -/
lemma resolveFrom_put {pieces : List String} (h : d.resolveFrom place pieces = .ok target)
    (at' : Place) (data : Octets) : (d.put at' data).resolveFrom place pieces = .ok target := by
  induction pieces generalizing place with
  | nil => exact h
  | cons piece rest ih =>
    rw [resolveFrom] at h ⊢
    by_cases hup : piece = ".."
    · rw [if_pos hup] at h ⊢
      split_ifs at h with hfolder
      rw [if_pos (isFolder_put hfolder at' data)]
      exact ih h
    · rw [if_neg hup] at h ⊢
      exact ih h

/-- **A path leads to its place** after a file is put somewhere. -/
lemma resolve_put (h : d.resolve path = .ok target) (at' : Place) (data : Octets) :
    (d.put at' data).resolve path = .ok target := by
  unfold resolve at h ⊢
  split_ifs at h ⊢
  exact resolveFrom_put h at' data

/-- A write that does not fail puts a file at the place of a path that does not end in a slash. -/
lemma exists_of_write (h : d.write path data = .ok d') :
    ∃ place, d.resolve path = .ok place ∧ path.endsWith "/" = false ∧ d' = d.put place data := by
  simp only [write, Layout.bind_eq_ok_iff] at h
  obtain ⟨place, hplace, h⟩ := h
  split_ifs at h with hfolder hfile hparent hslash
  refine ⟨place, hplace, by simpa using hslash, ?_⟩
  exact (Except.ok.inj h).symm

/-- **A file that is written is read back.** -/
theorem read_write (h : d.write path data = .ok d') : d'.read path = .ok data := by
  obtain ⟨place, hplace, hslash, rfl⟩ := exists_of_write h
  rw [read, Layout.bind_eq_ok_iff]
  refine ⟨place, resolve_put hplace place data, ?_⟩
  rw [find?_put]
  simp only [hslash]
  rfl

end Directory

end TileCache
