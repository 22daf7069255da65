import TileCache.Json
set_option autoImplicit false

/-!
# Reading JSON

A reader for one JSON value with blanks around it. Each reader takes the characters at hand and
returns what it read with the characters that follow; the depth of nesting is bounded by the length
of the text, so no text is refused for its depth.

## Main definitions

* `Json.Reader.value` — the value at the start of a text.
* `Json.parse?` — the value that a whole text is.
-/

namespace TileCache.Json

namespace Reader

/-- What a reader of an `α` returns: nothing, or the `α` and the characters that follow it. -/
abbrev Result (α : Type) := Option (α × List Char)

/-- Whether a character may stand between tokens. -/
def isSpace (c : Char) : Bool :=
  c == ' ' || c == '\t' || c == '\n' || c == '\r'

/-- The text without the blanks at its start. -/
def skip (cs : List Char) : List Char :=
  cs.dropWhile isSpace

/-! ## Strings -/

/-- The value of a hexadecimal digit. -/
def hexValue? (c : Char) : Option Nat :=
  if '0' ≤ c ∧ c ≤ '9' then some (c.toNat - '0'.toNat)
  else if 'a' ≤ c ∧ c ≤ 'f' then some (c.toNat - 'a'.toNat + 10)
  else if 'A' ≤ c ∧ c ≤ 'F' then some (c.toNat - 'A'.toNat + 10)
  else none

/-- The value of four hexadecimal digits. -/
def unit? (a b c d : Char) : Option Nat := do
  return (((← hexValue? a) * 16 + (← hexValue? b)) * 16 + (← hexValue? c)) * 16 + (← hexValue? d)

/-- Whether a unit is the first of a surrogate pair. -/
def isLeading (n : Nat) : Bool :=
  0xD800 ≤ n && n ≤ 0xDBFF

/-- Whether a unit is the second of a surrogate pair. -/
def isTrailing (n : Nat) : Bool :=
  0xDC00 ≤ n && n ≤ 0xDFFF

/-- The character of a surrogate pair. -/
def paired (lead trail : Nat) : Char :=
  Char.ofNat (0x10000 + (lead - 0xD800) * 0x400 + (trail - 0xDC00))

/-- The character that a backslash and `c` stand for. -/
def escaped? (c : Char) : Option Char :=
  if c = '"' then some '"'
  else if c = '\\' then some '\\'
  else if c = '/' then some '/'
  else if c = 'b' then some '\x08'
  else if c = 'f' then some '\x0c'
  else if c = 'n' then some '\n'
  else if c = 'r' then some '\r'
  else if c = 't' then some '\t'
  else none

/-- What was read of a string with one more character before it. -/
def before (c : Char) (r : Option (List Char) × List Char) : Option (List Char) × List Char :=
  (r.1.map (c :: ·), r.2)

/-- What was read of a string that also holds a unit without text. -/
def broken (r : Option (List Char) × List Char) : Option (List Char) × List Char :=
  (none, r.2)

/-- The characters of a string up to its closing quote; `none` for a string that holds an unpaired
surrogate. -/
def stringRest : List Char → Result (Option (List Char))
  | [] => none
  | '"' :: cs => some (some [], cs)
  | '\\' :: 'u' :: a :: b :: c :: d :: cs =>
    match unit? a b c d with
    | none => none
    | some n =>
      if isLeading n then
        match cs with
        | '\\' :: 'u' :: e :: f :: g :: h :: cs' =>
          match unit? e f g h with
          | none => none
          | some m =>
            if isTrailing m then (stringRest cs').map (before (paired n m))
            else (stringRest ('\\' :: 'u' :: e :: f :: g :: h :: cs')).map broken
        | cs => (stringRest cs).map broken
      else if isTrailing n then (stringRest cs).map broken
      else (stringRest cs).map (before (Char.ofNat n))
  | '\\' :: e :: cs =>
    match escaped? e with
    | none => none
    | some c => (stringRest cs).map (before c)
  | c :: cs =>
    if c = '\\' || c.toNat < 0x20 then none
    else (stringRest cs).map (before c)
  termination_by cs => cs.length

/-- A string, with its quotes. -/
def string : List Char → Result (Option String)
  | '"' :: cs => (stringRest cs).map fun (text, rest) => (text.map String.ofList, rest)
  | _ => none

/-! ## Numbers -/

/-- The digits at the start of a text, of which there must be one. -/
def digits (cs : List Char) : Result (List Char) :=
  let ds := cs.takeWhile Char.isDigit
  if ds.isEmpty then none else some (ds, cs.dropWhile Char.isDigit)

/-- The whole part of a number: no leading zero before another digit. -/
def whole (cs : List Char) : Result (List Char) :=
  match digits cs with
  | some (ds, rest) => if ds.head? = some '0' && ds.length > 1 then none else some (ds, rest)
  | none => none

/-- The fraction of a number, if there is one. -/
def fraction : List Char → Result (List Char)
  | '.' :: cs => (digits cs).map fun (ds, rest) => ('.' :: ds, rest)
  | cs => some ([], cs)

/-- The digits of an exponent, with a sign if there is one. -/
def signedDigits : List Char → Result (List Char)
  | '+' :: cs => (digits cs).map fun (ds, rest) => ('+' :: ds, rest)
  | '-' :: cs => (digits cs).map fun (ds, rest) => ('-' :: ds, rest)
  | cs => digits cs

/-- The exponent of a number, if there is one. -/
def exponent : List Char → Result (List Char)
  | 'e' :: cs => (signedDigits cs).map fun (ds, rest) => ('e' :: ds, rest)
  | 'E' :: cs => (signedDigits cs).map fun (ds, rest) => ('E' :: ds, rest)
  | cs => some ([], cs)

/-- The literal of a number without sign. -/
def magnitude (cs : List Char) : Option (List Char × List Char) := do
  let (w, cs) ← whole cs
  let (f, cs) ← fraction cs
  let (e, cs) ← exponent cs
  return (w ++ f ++ e, cs)

/-- The literal of a number. -/
def number : List Char → Result (List Char)
  | '-' :: cs => (magnitude cs).map fun (literal, rest) => ('-' :: literal, rest)
  | cs => magnitude cs

/-! ## Values -/

/-- The rest of a text that starts with a given word. -/
def word (w : List Char) (cs : List Char) : Option (List Char) :=
  if w.isPrefixOf cs then some (cs.drop w.length) else none

mutual

/-- The value at the start of a text, nested at most `depth` levels deep. -/
def value (depth : Nat) (cs : List Char) : Result Json :=
  match depth with
  | 0 => none
  | depth + 1 =>
    match skip cs with
    | [] => none
    | '\x7b' :: cs =>
      match skip cs with
      | '\x7d' :: cs => some (.object [], cs)
      | cs => (members depth cs).map fun (ms, rest) => (.object ms, rest)
    | '[' :: cs =>
      match skip cs with
      | ']' :: cs => some (.array [], cs)
      | cs => (items depth cs).map fun (js, rest) => (.array js, rest)
    | '"' :: cs => (string ('"' :: cs)).map fun (text, rest) => (.string text, rest)
    | 'n' :: cs => (word "ull".toList cs).map fun rest => (.null, rest)
    | 't' :: cs => (word "rue".toList cs).map fun rest => (.bool true, rest)
    | 'f' :: cs => (word "alse".toList cs).map fun rest => (.bool false, rest)
    | cs => (number cs).map fun (literal, rest) => (.number (String.ofList literal), rest)

/-- The items of an array up to its closing bracket. -/
def items (depth : Nat) (cs : List Char) : Result (List Json) :=
  match depth with
  | 0 => none
  | depth + 1 =>
    match value depth cs with
    | none => none
    | some (j, cs) =>
      match skip cs with
      | ']' :: cs => some ([j], cs)
      | ',' :: cs => (items depth cs).map fun (js, rest) => (j :: js, rest)
      | _ => none

/-- The members of an object up to its closing brace. -/
def members (depth : Nat) (cs : List Char) : Result (List (Option String × Json)) :=
  match depth with
  | 0 => none
  | depth + 1 =>
    match string (skip cs) with
    | none => none
    | some (name, cs) =>
      match skip cs with
      | ':' :: cs =>
        match value depth cs with
        | none => none
        | some (j, cs) =>
          match skip cs with
          | '\x7d' :: cs => some ([(name, j)], cs)
          | ',' :: cs => (members depth cs).map fun (ms, rest) => ((name, j) :: ms, rest)
          | _ => none
      | _ => none

end

end Reader

/-- The value that a whole text is, blanks around it aside. Every level of nesting and every item
takes a character at least, so the length of the text bounds the depth. -/
def parse? (cs : List Char) : Option Json :=
  match Reader.value (cs.length + 1) cs with
  | some (j, rest) => if (Reader.skip rest).isEmpty then some j else none
  | none => none

end TileCache.Json
