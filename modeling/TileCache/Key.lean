import TileCache.Key.Segment
set_option autoImplicit false

/-!
# Keys

A key is a list of segments, written with slashes between them. Keys are compared by that text, so
listings are in the order of the text and not of the segments; the text determines the segments, so
the two kinds of equality agree.

## Main definitions

* `Key` — the segments of a key with the text that they make.
* `Key.ofText`, `Key.ofStored` — the key of a whole text, its pieces encoded or as they stand.
* `Key.child`, `Key.leaf?` — one level more, and the last level.
* `Key.isWithin`, `Key.isBelow` — whether a key has another at its start, or is strictly below it.

## Main statements

* `Key.pieces_joinChars` — the pieces of a key's text are its segments.
* `Key.ext_text` — keys with one text are one key.
-/

namespace TileCache

namespace Key

/-- The characters of a list of segments, with slashes between them. -/
def joinChars : List Segment → List Char
  | [] => []
  | [s] => s.text.toList
  | s :: rest => s.text.toList ++ '/' :: joinChars rest

/-- The pieces between the slashes of a text, empty ones included. -/
def splitSlash : List Char → List (List Char)
  | [] => [[]]
  | c :: cs =>
    if c = '/' then [] :: splitSlash cs
    else match splitSlash cs with
      | [] => [[c]]
      | piece :: rest => (c :: piece) :: rest

/-- The pieces between the slashes of a text that are not empty. -/
def pieces (cs : List Char) : List (List Char) :=
  (splitSlash cs).filter fun piece => !piece.isEmpty

/-- A text without slash is one piece. -/
theorem splitSlash_of_not_mem {cs : List Char} (h : '/' ∉ cs) : splitSlash cs = [cs] := by
  induction cs with
  | nil => rfl
  | cons c cs ih =>
    simp only [List.mem_cons, not_or] at h
    simp [splitSlash, Ne.symm h.1, ih h.2]

/-- What stands before the first slash is the first piece. -/
theorem splitSlash_append {cs rest : List Char} (h : '/' ∉ cs) :
    splitSlash (cs ++ '/' :: rest) = cs :: splitSlash rest := by
  induction cs with
  | nil => simp [splitSlash]
  | cons c cs ih =>
    simp only [List.mem_cons, not_or] at h
    simp [splitSlash, Ne.symm h.1, ih h.2]

/-- No piece of a text is empty. -/
theorem ne_nil_of_mem_pieces {cs piece : List Char} (h : piece ∈ pieces cs) : piece ≠ [] := by
  simp only [pieces, List.mem_filter, Bool.not_eq_true', List.isEmpty_eq_false_iff] at h
  exact h.2

/-- The pieces of a key's text are its segments. -/
theorem pieces_joinChars (segments : List Segment) :
    pieces (joinChars segments) = segments.map (·.text.toList) := by
  induction segments with
  | nil => rfl
  | cons s rest ih =>
    cases rest with
    | nil => simp [joinChars, pieces, splitSlash_of_not_mem s.no_slash, s.ne_empty]
    | cons t rest =>
      have h : pieces (joinChars (s :: t :: rest)) =
          s.text.toList :: pieces (joinChars (t :: rest)) := by
        simp [joinChars, pieces, splitSlash_append s.no_slash, s.ne_empty]
      rw [h, ih]
      rfl

/-- The characters determine the segments. -/
theorem joinChars_injective {s t : List Segment} (h : joinChars s = joinChars t) : s = t := by
  have hp : s.map (·.text.toList) = t.map (·.text.toList) := by
    rw [← pieces_joinChars, ← pieces_joinChars, h]
  refine List.map_inj_right (f := fun s : Segment => s.text.toList) ?_ |>.1 hp
  exact fun a b hab => Segment.ext_text (String.toList_injective hab)

end Key

/-- The name of an object: a list of segments, with the text that they make. -/
structure Key where
  segments : List Segment
  /-- The segments with slashes between them. -/
  text : String := String.ofList (Key.joinChars segments)
  text_eq : text = String.ofList (Key.joinChars segments) := by rfl

namespace Key

/-- A key is its segments. -/
theorem ext_segments {k l : Key} (h : k.segments = l.segments) : k = l := by
  obtain ⟨s, a, ha⟩ := k
  obtain ⟨t, b, hb⟩ := l
  cases h
  subst ha hb
  rfl

/-- Keys with one text are one key. -/
theorem ext_text {k l : Key} (h : k.text = l.text) : k = l := by
  apply ext_segments
  rw [k.text_eq, l.text_eq] at h
  exact joinChars_injective (String.ofList_injective h)

instance : DecidableEq Key := fun k l =>
  if h : k.text = l.text then .isTrue (ext_text h) else .isFalse fun e => h (e ▸ rfl)

/-- Keys are in the order of their texts. -/
instance : Ord Key := ⟨fun k l => compare k.text l.text⟩

instance : Std.TransOrd Key where
  eq_swap {k l} :=
    show compare k.text l.text = (compare l.text k.text).swap from Std.OrientedCmp.eq_swap
  isLE_trans {k l m} h₁ h₂ :=
    show (compare k.text m.text).isLE from
      Std.TransCmp.isLE_trans (show (compare k.text l.text).isLE from h₁) h₂

instance : Std.LawfulEqOrd Key where
  compare_self {k} := show compare k.text k.text = .eq from Std.ReflCmp.compare_self
  eq_of_compare {k l} h :=
    ext_text (Std.LawfulEqCmp.eq_of_compare (show compare k.text l.text = .eq from h))

/-- The key without segments, above all others. -/
def root : Key := { segments := [] }

instance : Inhabited Key := ⟨root⟩

/-- The key one level below, ending in a segment. -/
def child (k : Key) (s : Segment) : Key :=
  { segments := k.segments ++ [s] }

/-- The last segment of a key. -/
def leaf? (k : Key) : Option Segment :=
  k.segments.getLast?

/-- Whether the segments of `k` begin with those of `base`. -/
def isWithin (k base : Key) : Bool :=
  base.segments.isPrefixOf k.segments

/-- Whether `k` is strictly below `base`: within it, and with a segment more. -/
def isBelow (k base : Key) : Bool :=
  k.isWithin base && base.segments.length < k.segments.length

/-- The key of a whole text: every piece between slashes is encoded as an identifier. -/
def ofText (text : String) : Key :=
  { segments := (pieces text.toList).filterMap fun piece =>
      if h : String.ofList piece ≠ "" then some (Segment.encode (String.ofList piece) h) else none }

/-- The key of an object already stored: the pieces between slashes as they stand. -/
def ofStored (text : String) : Key :=
  { segments := (pieces text.toList).filterMap fun piece => Segment.ofText? (String.ofList piece) }

end Key

end TileCache
