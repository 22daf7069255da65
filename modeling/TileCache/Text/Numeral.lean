set_option autoImplicit false

/-!
# Numerals and truth values in settings and arguments

A natural number is written in decimal digits with an optional leading plus. Digits are read from
the left, and the first thing wrong decides the fault: a character that is no digit, or a value
that has left the range.

## Main definitions

* `Text.readNatural` — a number below a bound, or the `Text.NumeralFault` in its text.
* `Text.readTruth` — `true` or `false`.
-/

namespace TileCache.Text

/-- What is wrong with the text of a number. -/
inductive NumeralFault
  /-- There is no text at all. -/
  | empty
  /-- A character is no decimal digit, or a sign stands alone. -/
  | badDigit
  /-- The value is not below the bound. -/
  | tooLarge
  deriving DecidableEq, Repr

/-- The wording of a fault. -/
def NumeralFault.message : NumeralFault → String
  | .empty => "cannot parse integer from empty string"
  | .badDigit => "invalid digit found in string"
  | .tooLarge => "number too large to fit in target type"

/-- The value of a digit of base at most sixteen. -/
def digitValue? (base : Nat) (c : Char) : Option Nat :=
  let value :=
    if '0' ≤ c ∧ c ≤ '9' then some (c.toNat - '0'.toNat)
    else if 'a' ≤ c ∧ c ≤ 'f' then some (c.toNat - 'a'.toNat + 10)
    else if 'A' ≤ c ∧ c ≤ 'F' then some (c.toNat - 'A'.toNat + 10)
    else none
  value.filter (· < base)

/-- The number that continues `value` with the given digits, as long as it stays below `bound`. -/
def readDigits (base bound value : Nat) : List Char → Except NumeralFault Nat
  | [] => .ok value
  | c :: cs =>
    match digitValue? base c with
    | none => .error .badDigit
    | some d =>
      if value * base + d < bound then readDigits base bound (value * base + d) cs
      else .error .tooLarge

/-- The text without one leading plus; a plus that stands alone is kept. -/
def dropPlus : List Char → List Char
  | '+' :: c :: cs => c :: cs
  | cs => cs

/-- The natural number below `bound` that a text of decimal digits, with an optional plus before
them, stands for. -/
def readNatural (bound : Nat) (cs : List Char) : Except NumeralFault Nat :=
  match cs with
  | [] => .error .empty
  | cs => readDigits 10 bound 0 (dropPlus cs)

/-- The truth value that a text names. -/
def readTruth (cs : List Char) : Option Bool :=
  if cs = "true".toList then some true
  else if cs = "false".toList then some false
  else none

/-- The wording for a text that names no truth value. -/
def truthFault : String :=
  "provided string was not `true` or `false`"

end TileCache.Text
