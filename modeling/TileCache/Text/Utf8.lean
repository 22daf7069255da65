set_option autoImplicit false

/-!
# Octets of a text

UTF-8 as octet lists: the encoder is core's, character by character; the decoder walks the octets
once and, where they stop being UTF-8, says how many were good and how long the bad part is. The
bad part is the longest start of a character that could not be completed, or one octet.

## Main definitions

* `Octets` — a finite sequence of octets, what a bucket stores.
* `Utf8.encode` — the octets of a text.
* `Utf8.decode` — the text of the octets, or the first fault in them.
* `Utf8.decodeLossy` — the text of the octets with replacement characters for what is no text.
* `Utf8.Fault` — where decoding failed, with its wording `Utf8.Fault.message`.
-/

namespace TileCache

/-- A finite sequence of octets. -/
abbrev Octets := List UInt8

namespace Utf8

/-- The octets of a text, character by character. -/
def encode (s : String) : Octets :=
  s.toList.flatMap String.utf8EncodeChar

/-- The first place where octets stop being UTF-8: `good` octets are well formed, and then either
`bad = some n` octets are wrong or, with `bad = none`, the data end inside a character. -/
structure Fault where
  good : Nat
  bad : Option Nat
  deriving DecidableEq, Repr

/-- The wording of a fault. -/
def Fault.message (f : Fault) : String :=
  match f.bad with
  | some n => s!"invalid utf-8 sequence of {n} bytes from index {f.good}"
  | none => s!"incomplete utf-8 byte sequence from index {f.good}"

/-- Whether an octet continues a character: `10xxxxxx`. -/
def isContinuation (b : UInt8) : Bool :=
  0x80 ≤ b && b ≤ 0xBF

/-- Whether `b` may stand second in a three-octet character that starts with `a`: neither overlong
nor a surrogate. -/
def isSecondOfThree (a b : UInt8) : Bool :=
  if a == 0xE0 then 0xA0 ≤ b && b ≤ 0xBF
  else if a == 0xED then 0x80 ≤ b && b ≤ 0x9F
  else isContinuation b

/-- Whether `b` may stand second in a four-octet character that starts with `a`: neither overlong
nor above `U+10FFFF`. -/
def isSecondOfFour (a b : UInt8) : Bool :=
  if a == 0xF0 then 0x90 ≤ b && b ≤ 0xBF
  else if a == 0xF4 then 0x80 ≤ b && b ≤ 0x8F
  else isContinuation b

/-- The low six bits that a continuation octet carries. -/
def payload (b : UInt8) : Nat :=
  b.toNat % 64

/-- The characters of the octets, of which `good` well-formed ones went before. -/
def decodeFrom (good : Nat) : Octets → Except Fault (List Char)
  | [] => .ok []
  | a :: r =>
    if a ≤ 0x7F then
      (Char.ofNat a.toNat :: ·) <$> decodeFrom (good + 1) r
    else if 0xC2 ≤ a && a ≤ 0xDF then
      match r with
      | [] => .error ⟨good, none⟩
      | b :: r =>
        if isContinuation b then
          (Char.ofNat (a.toNat % 32 * 64 + payload b) :: ·) <$> decodeFrom (good + 2) r
        else .error ⟨good, some 1⟩
    else if 0xE0 ≤ a && a ≤ 0xEF then
      match r with
      | [] => .error ⟨good, none⟩
      | b :: r =>
        if isSecondOfThree a b then
          match r with
          | [] => .error ⟨good, none⟩
          | c :: r =>
            if isContinuation c then
              (Char.ofNat (a.toNat % 16 * 4096 + payload b * 64 + payload c) :: ·) <$>
                decodeFrom (good + 3) r
            else .error ⟨good, some 2⟩
        else .error ⟨good, some 1⟩
    else if 0xF0 ≤ a && a ≤ 0xF4 then
      match r with
      | [] => .error ⟨good, none⟩
      | b :: r =>
        if isSecondOfFour a b then
          match r with
          | [] => .error ⟨good, none⟩
          | c :: r =>
            if isContinuation c then
              match r with
              | [] => .error ⟨good, none⟩
              | d :: r =>
                if isContinuation d then
                  (Char.ofNat (a.toNat % 8 * 262144 + payload b * 4096 + payload c * 64 +
                    payload d) :: ·) <$> decodeFrom (good + 4) r
                else .error ⟨good, some 3⟩
            else .error ⟨good, some 2⟩
        else .error ⟨good, some 1⟩
    else .error ⟨good, some 1⟩

/-- The text of the octets, or the first fault in them. -/
def decode (bytes : Octets) : Except Fault String :=
  String.ofList <$> decodeFrom 0 bytes

/-- The text of the octets, if they are UTF-8. -/
def decode? (bytes : Octets) : Option String :=
  (decode bytes).toOption

/-- The characters of the octets, each bad part shown as one replacement character. Every round
passes a bad part, so there are no more of them than octets. -/
def lossyFrom (rounds : Nat) (bytes : Octets) : List Char :=
  match rounds with
  | 0 => []
  | rounds + 1 =>
    match decodeFrom 0 bytes with
    | .ok cs => cs
    | .error f =>
      let good := ((decodeFrom 0 (bytes.take f.good)).toOption).getD []
      match f.bad with
      | none => good ++ ['\ufffd']
      | some n => good ++ '\ufffd' :: lossyFrom rounds (bytes.drop (f.good + n))

/-- The text of the octets, each bad part shown as one replacement character. -/
def decodeLossy (bytes : Octets) : String :=
  String.ofList (lossyFrom (bytes.length + 1) bytes)

end Utf8

end TileCache
