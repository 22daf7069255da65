import TileCache.Text.Utf8
set_option autoImplicit false

/-!
# Key segments

A segment is one level of a key: a non-empty text without slash. An identifier becomes a segment by
percent-encoding its octets, so that any text makes a segment of its own and none can forge another
level.

## Main definitions

* `Segment` — a non-empty text without slash.
* `Segment.encodeOctet`, `Segment.encodeChars` — percent-encoding of one octet and of a text.
* `Segment.encode` — the segment of a non-empty identifier.

## Main statements

* `Segment.slash_not_mem_encodeChars` — no encoded text holds a slash.
* `Segment.encodeChars_ne_nil` — a non-empty text is not encoded as the empty one.
-/

namespace TileCache

/-- One level of a key. -/
structure Segment where
  /-- The segment as it stands in the key. -/
  text : String
  /-- A segment is not empty, for an empty level would vanish from the key. -/
  ne_empty : text.toList ≠ []
  /-- A segment holds no slash, which parts the levels. -/
  no_slash : '/' ∉ text.toList

namespace Segment

/-- A segment is its text. -/
theorem ext_text {s t : Segment} (h : s.text = t.text) : s = t := by
  cases s; cases t; cases h; rfl

instance : DecidableEq Segment := fun s t =>
  if h : s.text = t.text then .isTrue (ext_text h) else .isFalse fun e => h (e ▸ rfl)

/-- The octets that a segment cannot hold as they are: controls, everything outside ASCII, and the
characters that have a meaning in keys and in patterns over keys. -/
def isReserved (b : UInt8) : Bool :=
  b < 0x20 || 0x7F ≤ b ||
    [0x22, 0x23, 0x25, 0x2A, 0x2F, 0x3C, 0x3E, 0x3F, 0x5B, 0x5C, 0x5D, 0x5E, 0x60, 0x7B, 0x7C, 0x7D,
      0x7E].contains b

/-- The upper-case hexadecimal digit of a number below sixteen. -/
def hexDigit (n : Nat) : Char :=
  if n < 10 then Char.ofNat (n + '0'.toNat) else Char.ofNat (n - 10 + 'A'.toNat)

/-- A percent sign and two hexadecimal digits. -/
def escapeOctet (b : UInt8) : List Char :=
  ['%', hexDigit (b.toNat / 16), hexDigit (b.toNat % 16)]

/-- One octet of an identifier in a segment. -/
def encodeOctet (b : UInt8) : List Char :=
  if isReserved b then escapeOctet b else [Char.ofNat b.toNat]

/-- An identifier in a segment. A lone dot and a pair of dots, which would mean a place relative to
another, are escaped whole. -/
def encodeChars (identifier : String) : List Char :=
  if identifier = "." then escapeOctet 0x2E
  else if identifier = ".." then escapeOctet 0x2E ++ escapeOctet 0x2E
  else (Utf8.encode identifier).flatMap encodeOctet

/-- Whether an octet is encoded by something, and without slash. -/
private theorem encodeOctet_sound (n : Fin 256) :
    encodeOctet (UInt8.ofNat n) ≠ [] ∧ '/' ∉ encodeOctet (UInt8.ofNat n) := by
  revert n; decide +kernel

/-- No octet is encoded by nothing. -/
theorem encodeOctet_ne_nil (b : UInt8) : encodeOctet b ≠ [] := by
  simpa using (encodeOctet_sound ⟨b.toNat, b.toNat_lt⟩).1

/-- No encoded octet holds a slash. -/
theorem slash_not_mem_encodeOctet (b : UInt8) : '/' ∉ encodeOctet b := by
  simpa using (encodeOctet_sound ⟨b.toNat, b.toNat_lt⟩).2

/-- No encoded text holds a slash. -/
theorem slash_not_mem_encodeChars (identifier : String) : '/' ∉ encodeChars identifier := by
  unfold encodeChars
  split
  · decide +kernel
  split
  · decide +kernel
  · simp only [List.mem_flatMap, not_exists, not_and]
    exact fun b _ => slash_not_mem_encodeOctet b

/-- A character has at least one octet. -/
private theorem utf8EncodeChar_ne_nil (c : Char) : String.utf8EncodeChar c ≠ [] := by
  intro h
  have := String.length_utf8EncodeChar c
  have := Char.utf8Size_pos c
  simp_all

/-- A text that is not empty is not encoded as the empty one. -/
theorem encodeChars_ne_nil {identifier : String} (h : identifier ≠ "") :
    encodeChars identifier ≠ [] := by
  unfold encodeChars
  split
  · decide +kernel
  split
  · decide +kernel
  · have hne : identifier.toList ≠ [] := fun hn => h (String.toList_eq_nil_iff.1 hn)
    obtain ⟨c, cs, hcs⟩ := List.exists_cons_of_ne_nil hne
    obtain ⟨b, bs, hb⟩ := List.exists_cons_of_ne_nil (utf8EncodeChar_ne_nil c)
    simp [Utf8.encode, hcs, hb, encodeOctet_ne_nil b]

/-- The segment of an identifier that is not empty. -/
def encode (identifier : String) (h : identifier ≠ "") : Segment where
  text := String.ofList (encodeChars identifier)
  ne_empty := by simpa using encodeChars_ne_nil h
  no_slash := by simpa using slash_not_mem_encodeChars identifier

/-- The segment with a given text, if the text can be one as it stands. -/
def ofText? (text : String) : Option Segment :=
  if h : text.toList ≠ [] ∧ '/' ∉ text.toList then some ⟨text, h.1, h.2⟩ else none

end Segment

end TileCache
