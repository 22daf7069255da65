import TileCache.Text.Numeral
set_option autoImplicit false

/-!
# YAML values

The values of block and flow collections of scalars. A scalar is a text; whether it was written
without quotes decides if it can also stand for nothing, a truth value or a number.

## Main definitions

* `Yaml` — a value.
* `Yaml.text?`, `Yaml.isNull`, `Yaml.truth?`, `Yaml.number?` — what a scalar stands for.
* `Yaml.field?` — the value of one field of a mapping.
-/

namespace TileCache

/-- A YAML value. -/
inductive Yaml
  /-- A scalar by its text; `plain` says that it was written without quotes. -/
  | scalar (text : String) (plain : Bool)
  | sequence (items : List Yaml)
  /-- The entries of a mapping as they are written. -/
  | mapping (entries : List (Yaml × Yaml))

namespace Yaml

/-- The scalar that stands where nothing is written. -/
def empty : Yaml := scalar "" true

instance : Inhabited Yaml := ⟨empty⟩

/-- The text of a scalar. -/
def text? : Yaml → Option String
  | scalar text _ => some text
  | _ => none

/-- The text of a scalar without quotes. -/
def plain? : Yaml → Option String
  | scalar text true => some text
  | _ => none

/-- Whether a value stands for nothing. -/
def isNull (v : Yaml) : Bool :=
  match v.plain? with
  | some text => ["", "~", "null", "Null", "NULL"].contains text
  | none => false

/-- The truth value that a scalar stands for. -/
def truth? (v : Yaml) : Option Bool :=
  match v.plain? with
  | some text =>
    if ["true", "True", "TRUE"].contains text then some true
    else if ["false", "False", "FALSE"].contains text then some false
    else none
  | none => none

/-- The number below `bound` that some digits of a base stand for; there must be one. -/
def digits? (base bound : Nat) (cs : List Char) : Option Nat :=
  if cs.isEmpty then none else (Text.readDigits base bound 0 cs).toOption

/-- The number below `bound` that a numeral stands for: decimal without leading zeros, or
hexadecimal, octal or binary after a mark. -/
def numeral? (bound : Nat) : List Char → Option Nat
  | '0' :: 'x' :: cs => digits? 16 bound cs
  | '0' :: 'o' :: cs => digits? 8 bound cs
  | '0' :: 'b' :: cs => digits? 2 bound cs
  | '0' :: _ :: _ => none
  | cs => digits? 10 bound cs

/-- The number below `bound` that a scalar stands for. It may have a plus before it. -/
def number? (bound : Nat) (v : Yaml) : Option Nat := do
  match (← v.plain?).toList with
  | '+' :: cs => numeral? bound cs
  | cs => numeral? bound cs

/-- The entries of a mapping whose keys are scalars, by the texts of the keys. -/
def fields? : Yaml → Option (List (String × Yaml))
  | mapping entries => entries.mapM fun (key, value) => do return (← key.text?, value)
  | _ => none

end Yaml

end TileCache
