import Mathlib.Data.Nat.Notation
import Mathlib.Tactic.Common
import TileCache.Text.Utf8
set_option autoImplicit false

/-!
# The decoder undoes the encoder

The decoder reads the octets of one character at a time. For each of the four lengths a lemma says
what it makes of octets with given payloads; the octets that core writes for a character have just
such payloads, for a character is neither a surrogate nor above `U+10FFFF`.

## Main results

* `TileCache.Utf8.decodeFrom_utf8EncodeChar` — one written character is read back, whatever follows.
* `TileCache.Utf8.decode_encode` — a written text is read back.
* `TileCache.Utf8.encode_injective` — distinct texts have distinct octets.
-/

namespace TileCache.Utf8

/-! ## One character, by its number of octets -/

/-- The octets that continue a character, as numbers. -/
lemma isContinuation_iff (y : UInt8) :
    isContinuation y = true ↔ 0x80 ≤ y.toNat ∧ y.toNat ≤ 0xBF := by
  simp [isContinuation, UInt8.le_iff_toNat_le]

/-- An octet with six payload bits below the mark `10` continues a character. -/
lemma isContinuation_of_toNat {y : UInt8} {b : ℕ} (hy : y.toNat = b + 0x80) (hb : b < 64) :
    isContinuation y = true := by
  rw [isContinuation_iff]
  omega

/-- The payload of an octet that continues a character. -/
lemma payload_of_toNat {y : UInt8} {b : ℕ} (hy : y.toNat = b + 0x80) (hb : b < 64) :
    payload y = b := by
  unfold payload
  omega

/-- An octet below `0x80` is a character of its own. -/
lemma decodeFrom_one {x : UInt8} (hx : x.toNat < 0x80) (good : ℕ) (rest : Octets) :
    decodeFrom good (x :: rest) = (Char.ofNat x.toNat :: ·) <$> decodeFrom (good + 1) rest := by
  have hle : x ≤ 0x7F := by
    rw [UInt8.le_iff_toNat_le]
    exact Nat.le_of_lt_succ hx
  rw [decodeFrom.eq_def]
  simp only [hle, ↓reduceIte]

/-- A character of two octets that is not overlong. -/
lemma decodeFrom_two {x y : UInt8} {a b : ℕ} (hx : x.toNat = a + 0xC0) (hy : y.toNat = b + 0x80)
    (ha : 2 ≤ a) (ha' : a < 32) (hb : b < 64) (good : ℕ) (rest : Octets) :
    decodeFrom good (x :: y :: rest) =
      (Char.ofNat (a * 64 + b) :: ·) <$> decodeFrom (good + 2) rest := by
  have h1 : ¬ x ≤ 0x7F := by simp [UInt8.le_iff_toNat_le, hx]
  have h2 : (0xC2 ≤ x && x ≤ 0xDF) = true := by
    simp only [UInt8.le_iff_toNat_le, UInt8.reduceToNat, hx, Bool.and_eq_true, decide_eq_true_eq]
    omega
  rw [decodeFrom.eq_def]
  simp only [h1, h2, ↓reduceIte, isContinuation_of_toNat hy hb, payload_of_toNat hy hb, hx]
  rw [show (a + 0xC0) % 32 = a by omega]

/-- A character of three octets that is neither overlong nor a surrogate. -/
lemma decodeFrom_three {x y z : UInt8} {a b c : ℕ} (hx : x.toNat = a + 0xE0)
    (hy : y.toNat = b + 0x80) (hz : z.toNat = c + 0x80) (ha : a < 16) (hb : b < 64) (hc : c < 64)
    (hlow : a = 0 → 0x20 ≤ b) (hsurrogate : a = 0xD → b < 0x20) (good : ℕ) (rest : Octets) :
    decodeFrom good (x :: y :: z :: rest) =
      (Char.ofNat (a * 4096 + b * 64 + c) :: ·) <$> decodeFrom (good + 3) rest := by
  have h1 : ¬ x ≤ 0x7F := by simp [UInt8.le_iff_toNat_le, hx]
  have h2 : (0xC2 ≤ x && x ≤ 0xDF) = false := by simp [UInt8.le_iff_toNat_le, hx]
  have h3 : (0xE0 ≤ x && x ≤ 0xEF) = true := by
    simp only [UInt8.le_iff_toNat_le, UInt8.reduceToNat, hx, Bool.and_eq_true, decide_eq_true_eq]
    omega
  have h4 : isSecondOfThree x y = true := by
    unfold isSecondOfThree
    simp only [beq_iff_eq, ← UInt8.toNat_inj, UInt8.le_iff_toNat_le, hx, hy, UInt8.reduceToNat]
    split_ifs
    · have := hlow (by omega)
      simp only [Bool.and_eq_true, decide_eq_true_eq]
      omega
    · have := hsurrogate (by omega)
      simp only [Bool.and_eq_true, decide_eq_true_eq]
      omega
    · exact isContinuation_of_toNat hy hb
  rw [decodeFrom.eq_def]
  simp only [h1, h2, h3, h4, ↓reduceIte, isContinuation_of_toNat hz hc, payload_of_toNat hy hb,
    payload_of_toNat hz hc, hx, Bool.false_eq_true]
  rw [show (a + 0xE0) % 16 = a by omega]

/-- A character of four octets that is neither overlong nor above `U+10FFFF`. -/
lemma decodeFrom_four {x y z w : UInt8} {a b c d : ℕ} (hx : x.toNat = a + 0xF0)
    (hy : y.toNat = b + 0x80) (hz : z.toNat = c + 0x80) (hw : w.toNat = d + 0x80) (ha : a ≤ 4)
    (hb : b < 64) (hc : c < 64) (hd : d < 64) (hlow : a = 0 → 0x10 ≤ b) (hhigh : a = 4 → b < 0x10)
    (good : ℕ) (rest : Octets) :
    decodeFrom good (x :: y :: z :: w :: rest) =
      (Char.ofNat (a * 262144 + b * 4096 + c * 64 + d) :: ·) <$> decodeFrom (good + 4) rest := by
  have h1 : ¬ x ≤ 0x7F := by simp [UInt8.le_iff_toNat_le, hx]
  have h2 : (0xC2 ≤ x && x ≤ 0xDF) = false := by simp [UInt8.le_iff_toNat_le, hx]
  have h3 : (0xE0 ≤ x && x ≤ 0xEF) = false := by simp [UInt8.le_iff_toNat_le, hx]
  have h4 : (0xF0 ≤ x && x ≤ 0xF4) = true := by
    simp only [UInt8.le_iff_toNat_le, UInt8.reduceToNat, hx, Bool.and_eq_true, decide_eq_true_eq]
    omega
  have h5 : isSecondOfFour x y = true := by
    unfold isSecondOfFour
    simp only [beq_iff_eq, ← UInt8.toNat_inj, UInt8.le_iff_toNat_le, hx, hy, UInt8.reduceToNat]
    split_ifs
    · have := hlow (by omega)
      simp only [Bool.and_eq_true, decide_eq_true_eq]
      omega
    · have := hhigh (by omega)
      simp only [Bool.and_eq_true, decide_eq_true_eq]
      omega
    · exact isContinuation_of_toNat hy hb
  rw [decodeFrom.eq_def]
  simp only [h1, h2, h3, h4, h5, ↓reduceIte, isContinuation_of_toNat hz hc,
    isContinuation_of_toNat hw hd, payload_of_toNat hy hb, payload_of_toNat hz hc,
    payload_of_toNat hw hd, hx, Bool.false_eq_true]
  rw [show (a + 0xF0) % 8 = a by omega]

/-! ## Whole texts -/

/-- **One written character is read back**, whatever follows it.

**Proof sketch.** By the number of octets that the code point takes. The digits of the code point to
the base `64` are the payloads of the octets, so the lemma for that number of octets applies; that
the code point is a valid one excludes surrogates and what lies above the last plane. -/
lemma decodeFrom_utf8EncodeChar (c : Char) (good : ℕ) (rest : Octets) :
    decodeFrom good (String.utf8EncodeChar c ++ rest) =
      (c :: ·) <$> decodeFrom (good + c.utf8Size) rest := by
  have hvalid : c.val.toNat < 0xD800 ∨ 0xDFFF < c.val.toNat ∧ c.val.toNat < 0x110000 := c.valid
  have hofNat : Char.ofNat c.val.toNat = c := Char.ofNat_toNat c
  have hsize : (String.utf8EncodeChar c).length = c.utf8Size := String.length_utf8EncodeChar c
  have hbyte : ∀ n, n < 256 → (UInt8.ofNat n).toNat = n := fun n hn => UInt8.toNat_ofNat_of_lt' hn
  rw [← hsize]
  simp only [String.utf8EncodeChar]
  generalize c.val.toNat = v at *
  split_ifs with h1 h2 h3
  · have hx := hbyte v (by omega)
    simpa [hx, hofNat] using decodeFrom_one (x := UInt8.ofNat v) (by omega) good rest
  · have h := decodeFrom_two (hbyte (v / 64 % 32 + 192) (by omega))
      (hbyte (v % 64 + 128) (by omega)) (by omega) (by omega) (by omega) good rest
    rw [show v / 64 % 32 * 64 + v % 64 = v by omega, hofNat] at h
    exact h
  · have h := decodeFrom_three (hbyte (v / 4096 % 16 + 224) (by omega))
      (hbyte (v / 64 % 64 + 128) (by omega)) (hbyte (v % 64 + 128) (by omega))
      (by omega) (by omega) (by omega) (by omega) (by omega) good rest
    rw [show v / 4096 % 16 * 4096 + v / 64 % 64 * 64 + v % 64 = v by omega, hofNat] at h
    exact h
  · have h := decodeFrom_four (hbyte (v / 262144 % 8 + 240) (by omega))
      (hbyte (v / 4096 % 64 + 128) (by omega)) (hbyte (v / 64 % 64 + 128) (by omega))
      (hbyte (v % 64 + 128) (by omega)) (by omega) (by omega) (by omega) (by omega) (by omega)
      (by omega) good rest
    rw [show v / 262144 % 8 * 262144 + v / 4096 % 64 * 4096 + v / 64 % 64 * 64 + v % 64 = v by
      omega, hofNat] at h
    exact h

/-- The octets of characters are read back as these characters. -/
lemma decodeFrom_flatMap (cs : List Char) (good : ℕ) :
    decodeFrom good (cs.flatMap String.utf8EncodeChar) = .ok cs := by
  induction cs generalizing good with
  | nil => simp [decodeFrom]
  | cons c cs ih =>
    rw [List.flatMap_cons, decodeFrom_utf8EncodeChar, ih]
    rfl

/-- **A written text is read back.** -/
lemma decode_encode (s : String) : decode (encode s) = .ok s := by
  rw [decode, encode, decodeFrom_flatMap]
  exact congrArg Except.ok String.ofList_toList

/-- Distinct texts have distinct octets. -/
lemma encode_injective {s t : String} (h : encode s = encode t) : s = t := by
  have hs := decode_encode s
  rw [h, decode_encode] at hs
  exact (Except.ok.inj hs).symm

end TileCache.Utf8
