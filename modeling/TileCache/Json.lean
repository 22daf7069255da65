set_option autoImplicit false

/-!
# JSON values

Values as they are written: the members of an object in the order of the text, repeated names
included, and numbers by their literal. Printing is compact.

## Main definitions

* `Json` — a value.
* `Json.print` — the compact text of a value.
* `Json.natural?` — the natural number that a value stands for.
-/

namespace TileCache

/-- A JSON value. A string with an unpaired surrogate escape has no text; it is kept apart as
`none`, for it is well-formed JSON all the same. -/
inductive Json
  | null
  | bool (b : Bool)
  /-- A number, by its literal. -/
  | number (literal : String)
  /-- A string, or `none` for one that has no text. -/
  | string (text : Option String)
  | array (items : List Json)
  /-- The members of an object as they are written. -/
  | object (members : List (Option String × Json))

namespace Json

instance : Inhabited Json := ⟨null⟩

/-- A string value. -/
def ofText (text : String) : Json :=
  string (some text)

/-- A natural number. -/
def ofNat (n : Nat) : Json :=
  number (toString n)

/-- An object with the given members. -/
def ofMembers (members : List (String × Json)) : Json :=
  object (members.map fun (name, value) => (some name, value))

/-! ## Printing -/

/-- The lower-case hexadecimal digit of a number below sixteen. -/
def hexDigit (n : Nat) : Char :=
  if n < 10 then Char.ofNat (n + '0'.toNat) else Char.ofNat (n - 10 + 'a'.toNat)

/-- One character of a string as printed: quotes, backslashes and controls are escaped. -/
def printChar (c : Char) : List Char :=
  if c = '"' then ['\\', '"']
  else if c = '\\' then ['\\', '\\']
  else if c = '\x08' then ['\\', 'b']
  else if c = '\t' then ['\\', 't']
  else if c = '\n' then ['\\', 'n']
  else if c = '\x0c' then ['\\', 'f']
  else if c = '\r' then ['\\', 'r']
  else if c.toNat < 0x20 then
    ['\\', 'u', '0', '0', hexDigit (c.toNat / 16), hexDigit (c.toNat % 16)]
  else [c]

/-- A string as printed. -/
def printText (text : String) : List Char :=
  '"' :: text.toList.flatMap printChar ++ ['"']

/-- A string as printed. One without text is written as an unpaired surrogate. -/
def printString : Option String → List Char
  | some text => printText text
  | none => "\"\\ud800\"".toList

mutual

/-- The characters of a value, without blanks. -/
def printChars : Json → List Char
  | null => "null".toList
  | bool b => (if b then "true" else "false").toList
  | number literal => literal.toList
  | string text => printString text
  | array items => '[' :: printItems items ++ [']']
  | object members => '\x7b' :: printMembers members ++ ['\x7d']

/-- The items of an array, parted by commas. -/
def printItems : List Json → List Char
  | [] => []
  | [item] => printChars item
  | item :: rest => printChars item ++ ',' :: printItems rest

/-- The members of an object, parted by commas. -/
def printMembers : List (Option String × Json) → List Char
  | [] => []
  | [(name, value)] => printString name ++ ':' :: printChars value
  | (name, value) :: rest =>
    printString name ++ ':' :: (printChars value ++ ',' :: printMembers rest)

end

/-- The compact text of a value. -/
def print (j : Json) : String :=
  String.ofList j.printChars

/-! ## Reading values -/

/-- The text of a string. -/
def text? : Json → Option String
  | string text => text
  | _ => none

/-- The value of a numeral whose characters are all digits. -/
def digitsValue (cs : List Char) : Nat :=
  cs.foldl (fun n c => n * 10 + (c.toNat - '0'.toNat)) 0

/-- The natural number below `bound` that a value stands for: a numeral of digits alone, without
sign, fraction or exponent. -/
def natural? (bound : Nat) : Json → Option Nat
  | number literal =>
    let cs := literal.toList
    if cs.all Char.isDigit && !cs.isEmpty then
      let n := digitsValue cs
      if n < bound then some n else none
    else none
  | _ => none

/-- The truth value of a value. -/
def truth? : Json → Option Bool
  | bool b => some b
  | _ => none

end Json

end TileCache
