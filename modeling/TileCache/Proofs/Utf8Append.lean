import Mathlib.Data.List.Basic
import TileCache.Proofs.Utf8
set_option autoImplicit false

/-!
# Decoding octets in parts

Octets that are not empty begin with a character, which is read whatever follows it, or with a
fault (`firstOf`). A fault may be that the octets end inside a character, and then it depends on
what follows; but if the octets end with a line feed, no character is open there, for a line feed
continues none. So octets can be decoded in two parts if the first ends with a line feed: the first
fault of the whole is that of the first part, or else that of the second, further on.

## Main definitions

* `TileCache.EndsLine` — empty, or with a line feed at the end.
* `TileCache.Utf8.FirstOf` — what stands first in octets.
* `TileCache.Utf8.Fault.later` — a fault in octets that more octets go before.

## Main results

* `TileCache.Utf8.octets_induction` — octets character by character, up to the first fault.
* `TileCache.Utf8.decodeFrom_add` — how many octets went before counts only in a fault.
* `TileCache.Utf8.decodeFrom_append` — octets in two parts, of which the first ends a line.
* `TileCache.Utf8.endsLine_of_decodeFrom` — octets that end a line are characters that end a line.
-/

namespace TileCache

/-- Whether a sequence is empty or has a line feed at its end. -/
def EndsLine {α : Type} (feed : α) (xs : List α) : Prop :=
  xs = [] ∨ xs.getLast? = some feed

/-- What ends a line ends it in its last part. -/
lemma EndsLine.of_append {α : Type} {feed : α} {xs ys : List α} (h : EndsLine feed (xs ++ ys)) :
    EndsLine feed ys := by
  rcases List.eq_nil_or_concat ys with rfl | ⟨ys, y, rfl⟩
  · exact .inl rfl
  · right
    simpa [EndsLine] using h

namespace Utf8

/-! ## What stands first -/

/-- What stands first in octets: a character, which is read whatever follows it, or a fault, which
is the same whatever follows if the octets end with a line feed. -/
inductive FirstOf (octets : Octets) : Prop
  | character (c : Char) (first rest : Octets) (split : octets = first ++ rest)
      (reads : ∀ good more, decodeFrom good (first ++ more) =
        (c :: ·) <$> decodeFrom (good + first.length) more)
      (ne_nil : first ≠ []) (feed : first.getLast? = some 0x0A → c = '\n')
  | fault (bad : Option ℕ) (refuses : ∀ good, decodeFrom good octets = .error ⟨good, bad⟩)
      (settled : octets.getLast? = some 0x0A →
        ∀ good more, decodeFrom good (octets ++ more) = .error ⟨good, bad⟩)

/-- Octets in the middle of a character: they are the start of one as long as what follows continues
them, which a line feed does not. -/
lemma firstOf_open {started : Octets} {continues : UInt8 → Bool}
    (hlast : started.getLast? ≠ some 0x0A) (hfeed : continues 0x0A = false)
    (hends : ∀ good, decodeFrom good started = .error ⟨good, none⟩)
    (hrefuses : ∀ y, continues y = false → ∀ good more,
      decodeFrom good (started ++ y :: more) = .error ⟨good, some started.length⟩)
    (hgoes : ∀ y, continues y = true → y ≠ 0x0A → ∀ more, FirstOf (started ++ y :: more))
    (octets : Octets) : FirstOf (started ++ octets) := by
  rcases octets with _ | ⟨y, more⟩
  · rw [List.append_nil]
    exact .fault none hends fun h => absurd h hlast
  cases hy : continues y with
  | true =>
    refine hgoes y hy ?_ more
    rintro rfl
    rw [hfeed] at hy
    cases hy
  | false =>
    refine .fault _ (fun good => hrefuses y hy good more) fun _ good more' => ?_
    rw [List.append_assoc]
    exact hrefuses y hy good (more ++ more')

/-- **What stands first in octets that are not empty.**

**Proof sketch.** By the branches of the decoder on the first octet, which says how many octets are
to follow, and from there one octet at a time. -/
lemma firstOf (x : UInt8) (octets : Octets) : FirstOf (x :: octets) := by
  have heq (good : ℕ) (more : Octets) := decodeFrom.eq_def good (x :: more)
  by_cases h1 : x ≤ 0x7F
  · simp only [h1, ↓reduceIte] at heq
    refine .character (Char.ofNat x.toNat) [x] octets rfl heq (by simp) ?_
    rintro ⟨⟩
    rfl
  have hx : x ≠ 0x0A := by
    rintro rfl
    exact h1 (by decide)
  have hcontinuation : isContinuation 0x0A = false := rfl
  -- One more octet is to follow, or two, or three.
  by_cases h2 : (0xC2 ≤ x && x ≤ 0xDF) = true
  · simp only [h1, h2, ↓reduceIte] at heq
    show FirstOf ([x] ++ octets)
    refine firstOf_open (by simp [hx]) hcontinuation (fun good => heq good [])
      (fun y hy good more => by simp [heq, hy]) (fun y hy hfeed more => ?_) octets
    exact .character (Char.ofNat (x.toNat % 32 * 64 + payload y)) [x, y] more rfl
      (fun good more => by simp [heq, hy]) (by simp) (by simp [hfeed])
  by_cases h3 : (0xE0 ≤ x && x ≤ 0xEF) = true
  · have hsecond : isSecondOfThree x 0x0A = false := by
      unfold isSecondOfThree
      split_ifs <;> rfl
    simp only [h1, h2, h3, ↓reduceIte] at heq
    show FirstOf ([x] ++ octets)
    refine firstOf_open (by simp [hx]) hsecond (fun good => heq good [])
      (fun y hy good more => by simp [heq, hy]) (fun y hy hfeed more => ?_) octets
    show FirstOf ([x, y] ++ more)
    refine firstOf_open (by simp [hfeed]) hcontinuation (fun good => by simp [heq, hy])
      (fun z hz good more => by simp [heq, hy, hz]) (fun z hz hfeed more => ?_) more
    exact .character (Char.ofNat (x.toNat % 16 * 4096 + payload y * 64 + payload z)) [x, y, z] more
      rfl (fun good more => by simp [heq, hy, hz]) (by simp) (by simp [hfeed])
  by_cases h4 : (0xF0 ≤ x && x ≤ 0xF4) = true
  · have hsecond : isSecondOfFour x 0x0A = false := by
      unfold isSecondOfFour
      split_ifs <;> rfl
    simp only [h1, h2, h3, h4, ↓reduceIte] at heq
    show FirstOf ([x] ++ octets)
    refine firstOf_open (by simp [hx]) hsecond (fun good => heq good [])
      (fun y hy good more => by simp [heq, hy]) (fun y hy hfeed more => ?_) octets
    show FirstOf ([x, y] ++ more)
    refine firstOf_open (by simp [hfeed]) hcontinuation (fun good => by simp [heq, hy])
      (fun z hz good more => by simp [heq, hy, hz]) (fun z hz hfeed more => ?_) more
    show FirstOf ([x, y, z] ++ more)
    refine firstOf_open (by simp [hfeed]) hcontinuation (fun good => by simp [heq, hy, hz])
      (fun u hu good more => by simp [heq, hy, hz, hu]) (fun u hu hfeed more => ?_) more
    exact .character
      (Char.ofNat (x.toNat % 8 * 262144 + payload y * 4096 + payload z * 64 + payload u))
      [x, y, z, u] more rfl (fun good more => by simp [heq, hy, hz, hu]) (by simp) (by simp [hfeed])
  simp only [h1, h2, h3, h4, ↓reduceIte] at heq
  exact .fault (some 1) (fun good => heq good octets) fun _ good more => heq good (octets ++ more)

/-- **Octets character by character**, up to the first fault. -/
theorem octets_induction {motive : Octets → Prop} (nil : motive [])
    (character : ∀ c first rest, (∀ good more, decodeFrom good (first ++ more) =
        (c :: ·) <$> decodeFrom (good + first.length) more) →
      (first.getLast? = some 0x0A → c = '\n') → motive rest → motive (first ++ rest))
    (fault : ∀ octets bad, (∀ good, decodeFrom good octets = .error ⟨good, bad⟩) →
      (octets.getLast? = some 0x0A →
        ∀ good more, decodeFrom good (octets ++ more) = .error ⟨good, bad⟩) → motive octets)
    (octets : Octets) : motive octets := by
  induction hlength : octets.length using Nat.strongRecOn generalizing octets with
  | ind n ih =>
    cases octets with
    | nil => exact nil
    | cons x octets =>
      cases firstOf x octets with
      | character c first rest split reads ne_nil feed =>
        have hshorter : rest.length < n := by
          have := List.length_pos_iff.2 ne_nil
          rw [← hlength, split, List.length_append]
          omega
        rw [split]
        exact character c first rest reads feed (ih _ hshorter rest rfl)
      | fault bad refuses settled => exact fault _ bad refuses settled

/-! ## Octets in two parts -/

/-- A fault in octets that `before` well-formed ones go before. -/
def Fault.later (f : Fault) (before : ℕ) : Fault :=
  { f with good := f.good + before }

/-- **How many octets went before** counts only in a fault. -/
lemma decodeFrom_add (good before : ℕ) (octets : Octets) :
    decodeFrom (good + before) octets = (decodeFrom good octets).mapError (·.later before) := by
  induction octets using octets_induction generalizing good with
  | nil => rfl
  | character c first rest reads feed ih =>
    rw [reads, reads, Nat.add_right_comm, ih]
    cases decodeFrom (good + first.length) rest <;> rfl
  | fault octets bad refuses settled =>
    rw [refuses, refuses]
    rfl

/-- **Octets in two parts**, of which the first ends a line, are decoded one after the other.

**Proof sketch.** Character by character through the first part. A fault in it is the same whatever
follows, for the part ends with a line feed; and what is left behind a character ends with one
too. -/
lemma decodeFrom_append {a : Octets} (ha : EndsLine 0x0A a) (good : ℕ) (b : Octets) :
    decodeFrom good (a ++ b) =
      decodeFrom good a >>= fun cs => (cs ++ ·) <$> decodeFrom (good + a.length) b := by
  induction a using octets_induction generalizing good with
  | nil =>
    rw [List.nil_append, decodeFrom]
    exact (id_map _).symm
  | character c first rest reads feed ih =>
    rw [List.append_assoc, reads, reads, ih ha.of_append, List.length_append, Nat.add_assoc]
    cases decodeFrom (good + first.length) rest with
    | error f => rfl
    | ok cs => cases decodeFrom (good + (first.length + rest.length)) b <;> rfl
  | fault octets bad refuses settled =>
    rcases ha with rfl | hlast
    · cases refuses 0
    · rw [settled hlast, refuses]
      rfl

/-- Octets with a line feed at the end are decoded to characters with a line feed at the end. -/
lemma getLast?_of_decodeFrom {a : Octets} (ha : a.getLast? = some 0x0A) {good : ℕ}
    {cs : List Char} (h : decodeFrom good a = .ok cs) : cs.getLast? = some '\n' := by
  induction a using octets_induction generalizing good cs with
  | nil => cases ha
  | character c first rest reads feed ih =>
    rw [reads] at h
    cases hrest : decodeFrom (good + first.length) rest with
    | error f =>
      rw [hrest] at h
      cases h
    | ok cs' =>
      rw [hrest] at h
      cases h
      rw [List.getLast?_append] at ha
      cases hlast : rest.getLast? with
      | none =>
        -- The line feed is the character itself, with nothing behind it.
        obtain rfl := List.getLast?_eq_none_iff.1 hlast
        obtain rfl := feed ha
        cases hrest
        rfl
      | some y =>
        rw [hlast] at ha
        have hcs' := ih (hlast.trans ha) hrest
        simp [List.getLast?_cons, hcs']
  | fault octets bad refuses settled =>
    rw [refuses] at h
    cases h

/-- **Octets that end a line** are decoded to characters that end a line. -/
lemma endsLine_of_decodeFrom {a : Octets} (ha : EndsLine 0x0A a) {good : ℕ} {cs : List Char}
    (h : decodeFrom good a = .ok cs) : EndsLine '\n' cs := by
  rcases ha with rfl | hlast
  · cases h
    exact .inl rfl
  · exact .inr (getLast?_of_decodeFrom hlast h)

end Utf8

end TileCache
