import Mathlib.Data.List.Basic
import TileCache.Key
import TileCache.Proofs.Segment
set_option autoImplicit false

/-!
# Keys by their segments

Equality of keys, being strictly below a key, and the key of a whole text, all said of the segments.

## Main results

* `TileCache.Key.isBelow_iff` — a key strictly below another goes on after its segments.
* `TileCache.Key.ofText_inj` — whole texts make one key just if their pieces are the same.
-/

namespace TileCache.Key

/-- The key one level below has one segment more. -/
@[simp]
lemma segments_child (k : Key) (s : Segment) : (k.child s).segments = k.segments ++ [s] := rfl

/-- Keys are equal just if their segments are. -/
lemma eq_iff_segments {k l : Key} : k = l ↔ k.segments = l.segments :=
  ⟨fun h => h ▸ rfl, ext_segments⟩

/-- A key is within another just if its segments begin with those of the other. -/
lemma isWithin_iff {k base : Key} : k.isWithin base = true ↔ base.segments <+: k.segments :=
  List.isPrefixOf_iff_prefix

/-- What is strictly below a key is within it. -/
lemma isWithin_of_isBelow {k base : Key} (h : k.isBelow base = true) : k.isWithin base = true := by
  rw [isBelow, Bool.and_eq_true] at h
  exact h.1

/-- Of two keys that a third is within, one is within the other. -/
lemma isWithin_or_isWithin {k base base' : Key} (h : k.isWithin base = true)
    (h' : k.isWithin base' = true) : base'.isWithin base = true ∨ base.isWithin base' = true := by
  simp only [isWithin_iff] at h h' ⊢
  exact List.prefix_or_prefix_of_prefix h h'

/-- A key strictly below another goes on after its segments. -/
lemma isBelow_iff {k base : Key} :
    k.isBelow base = true ↔ ∃ s rest, k.segments = base.segments ++ s :: rest := by
  simp only [isBelow, isWithin, Bool.and_eq_true, List.isPrefixOf_iff_prefix, decide_eq_true_eq]
  constructor
  · rintro ⟨⟨rest, h⟩, hlen⟩
    cases rest with
    | nil => simp_all
    | cons s rest => exact ⟨s, rest, h.symm⟩
  · rintro ⟨s, rest, h⟩
    exact ⟨⟨s :: rest, h.symm⟩, by simp [h]⟩

/-- The segments of a whole text. -/
lemma segments_ofText (text : String) :
    (ofText text).segments = (pieces text.toList).filterMap fun piece =>
      if h : String.ofList piece ≠ "" then some (Segment.encode (String.ofList piece) h)
      else none := rfl

/-- The segments of a whole text stand for the octets of its pieces. -/
lemma octets_ofText (text : String) :
    (ofText text).segments.map (fun s => Segment.octets s.text.toList) =
      (pieces text.toList).map fun piece => Utf8.encode (String.ofList piece) := by
  have hne : ∀ p ∈ pieces text.toList, String.ofList p ≠ "" := by
    intro p hp
    simpa [← String.toList_inj] using ne_nil_of_mem_pieces hp
  rw [segments_ofText]
  generalize pieces text.toList = ps at hne
  induction ps with
  | nil => rfl
  | cons p ps ih =>
    have hp := hne p List.mem_cons_self
    rw [List.filterMap_cons_some (dif_pos hp), List.map_cons, List.map_cons,
      ih fun q hq => hne q (List.mem_cons_of_mem _ hq)]
    simp [Segment.encode, Segment.octets_encodeChars]

/-- Whole texts make one key just if their pieces are the same. -/
lemma ofText_inj {r s : String} : ofText r = ofText s ↔ pieces r.toList = pieces s.toList := by
  constructor
  · intro h
    have hoctets := octets_ofText r
    rw [h, octets_ofText s] at hoctets
    have hinj : Function.Injective fun piece : List Char => Utf8.encode (String.ofList piece) :=
      fun p q hpq => String.ofList_injective (Utf8.encode_injective hpq)
    exact (List.map_injective_iff.2 hinj hoctets).symm
  · intro h
    rw [eq_iff_segments, segments_ofText, segments_ofText, h]

end TileCache.Key
