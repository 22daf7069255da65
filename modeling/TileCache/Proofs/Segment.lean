import TileCache.Key.Segment
import TileCache.Text.Numeral
import TileCache.Proofs.Utf8
set_option autoImplicit false

/-!
# Percent-encoding is injective

A reader of percent-encoded texts that takes back what the writer did. It needs no case of its own
for a lone dot or a pair of dots: the writer escapes these whole, and escaped octets are read like
all others. An identifier is therefore determined by its segment.

## Main definitions

* `TileCache.Segment.octets` — the octets that a percent-encoded text stands for.

## Main results

* `TileCache.Segment.octets_encodeChars` — an encoded identifier stands for its own octets.
* `TileCache.Segment.encode_inj` — identifiers with one segment are one identifier.
-/

namespace TileCache.Segment

/-- The value of a hexadecimal digit. -/
def hexValue (c : Char) : ℕ :=
  (Text.digitValue? 16 c).getD 0

/-- The octets that a percent-encoded text stands for. -/
def octets : List Char → Octets
  | [] => []
  | '%' :: high :: low :: rest => UInt8.ofNat (hexValue high * 16 + hexValue low) :: octets rest
  | c :: rest => UInt8.ofNat c.toNat :: octets rest

/-- Both ways to encode an octet, checked for each octet: the two digits have its value, and a
character that stands for itself is not a percent sign. -/
private lemma encodeOctet_exact (n : Fin 256) :
    hexValue (hexDigit (n / 16)) * 16 + hexValue (hexDigit (n % 16)) = n ∧
      (isReserved (UInt8.ofNat n) = false → Char.ofNat n ≠ '%' ∧ (Char.ofNat n).toNat = n) := by
  revert n
  decide +kernel

/-- **One encoded octet is read back**, whatever follows it. -/
lemma octets_encodeOctet (b : UInt8) (rest : List Char) :
    octets (encodeOctet b ++ rest) = b :: octets rest := by
  obtain ⟨hdigits, hplain⟩ := encodeOctet_exact ⟨b.toNat, b.toNat_lt⟩
  simp only [UInt8.ofNat_toNat] at hdigits hplain
  unfold encodeOctet
  split_ifs with hb
  · simp [escapeOctet, octets, hdigits]
  · obtain ⟨hpercent, hvalue⟩ := hplain (by simpa using hb)
    simp [octets, hpercent, hvalue]

/-- An encoded identifier stands for its own octets. -/
lemma octets_encodeChars (identifier : String) :
    octets (encodeChars identifier) = Utf8.encode identifier := by
  have hall : ∀ bytes : Octets, octets (bytes.flatMap encodeOctet) = bytes := by
    intro bytes
    induction bytes with
    | nil => rfl
    | cons b bytes ih => rw [List.flatMap_cons, octets_encodeOctet, ih]
  unfold encodeChars
  split_ifs with h₁ h₂
  · subst h₁
    decide +kernel
  · subst h₂
    decide +kernel
  · exact hall _

/-- **Identifiers with one segment are one identifier.** -/
lemma encode_inj {a b : String} {ha : a ≠ ""} {hb : b ≠ ""} :
    encode a ha = encode b hb ↔ a = b := by
  constructor
  · intro h
    have hchars : encodeChars a = encodeChars b := String.ofList_injective (congrArg Segment.text h)
    apply Utf8.encode_injective
    rw [← octets_encodeChars, ← octets_encodeChars, hchars]
  · rintro rfl
    rfl

end TileCache.Segment
