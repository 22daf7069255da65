import TileCache.Yaml.Cursor
set_option autoImplicit false

/-!
# Scalars

Plain and quoted scalars. All of them may run over several lines, which are then folded: a single
line end becomes a space, and of several the first is dropped.

## Main definitions

* `Yaml.Fold` — blanks and line ends inside a scalar, with the text `Yaml.Fold.text` they become.
* `Yaml.plain` — a scalar without quotes.
* `Yaml.singleQuoted`, `Yaml.doubleQuoted` — scalars in quotes.
-/

namespace TileCache.Yaml

/-- Blanks and line ends inside a scalar. -/
inductive Fold
  /-- Blanks within a line. -/
  | blanks (cs : List Char)
  /-- A line end, blanks aside, and the line ends after it. -/
  | broken (first : Char) (more : List Char)
  /-- A line end that was taken out by a backslash, and the line ends after it. -/
  | joined (more : List Char)

namespace Fold

/-- No blanks and no line ends. -/
def none : Fold := blanks []

/-- Whether there are neither blanks nor line ends. -/
def isEmpty : Fold → Bool
  | blanks cs => cs.isEmpty
  | _ => false

/-- Whether there is a line end. -/
def isBroken : Fold → Bool
  | blanks _ => false
  | _ => true

/-- What is read when a blank follows. Blanks next to a line end are dropped. -/
def withBlank : Fold → Char → Fold
  | blanks cs, c => blanks (cs ++ [c])
  | fold, _ => fold

/-- What is read when a line end follows. -/
def withBreak : Fold → Char → Fold
  | blanks _, c => broken c []
  | broken first more, c => broken first (more ++ [c])
  | joined more, c => joined (more ++ [c])

/-- The text that blanks and line ends become. -/
def text : Fold → List Char
  | blanks cs => cs
  | broken '\n' [] => [' ']
  | broken '\n' more => more
  | broken first more => first :: more
  | joined more => more

end Fold

/-! ## Plain scalars -/

/-- What stands between two words of a plain scalar. -/
structure Gap where
  fold : Fold
  /-- Whether a tab stands where the line has to be indented. -/
  tabbed : Bool
  after : Cursor

/-- The blanks and line ends at the start of a text. Lines have to be indented by `floor`. -/
def gapFrom (floor : Nat) (fold : Fold) (tabbed : Bool) (line column : Nat) : List Char → Gap
  | [] => ⟨fold, tabbed, ⟨[], line, column, fold.isBroken⟩⟩
  | c :: cs =>
    if isBlank c then
      gapFrom floor (fold.withBlank c)
        (tabbed || (fold.isBroken && column < floor && c == '\t')) line (column + 1) cs
    else if isBreak c then gapFrom floor (fold.withBreak c) tabbed (line + 1) 0 cs
    else ⟨fold, tabbed, ⟨c :: cs, line, column, fold.isBroken⟩⟩

/-- Whether a character parts the items of a flow collection. -/
def isFlowMark (c : Char) : Bool :=
  [',', '[', ']', '\x7b', '\x7d'].contains c

/-- Whether the first of some characters is a mark that must not follow a colon directly in a flow
collection. -/
def startsWithMark : List Char → Bool
  | [] => false
  | c :: _ => isFlowMark c || c == '?'

/-- The characters of a plain scalar up to a blank, a line end or a mark that ends it, and what
follows them. -/
def plainWord (flow : Bool) : List Char → Option (List Char × List Char)
  | [] => some ([], [])
  | c :: cs =>
    if isBlank c || isBreak c then some ([], c :: cs)
    else if flow && c == ':' && startsWithMark cs then none
    else if (c == ':' && endsWord cs) || (flow && isFlowMark c) then some ([], c :: cs)
    else (plainWord flow cs).map fun (word, rest) => (c :: word, rest)

/-- The words of a plain scalar after the first, with the gaps between them. Every round takes a
word, so there are no more of them than characters. -/
def plainRest (flow : Bool) (floor rounds : Nat) (c : Cursor) : Option (List Char × Cursor) :=
  match rounds with
  | 0 => some ([], c)
  | rounds + 1 =>
    let gap := gapFrom floor .none false c.line c.column c.rest
    let place := gap.after
    if gap.tabbed then none
    else if gap.fold.isEmpty then some ([], c)
    else if (!flow && place.column < floor) || place.atMarker || place.rest.head? == some '#' then
      some ([], place)
    else match plainWord flow place.rest with
      | none => none
      | some ([], _) => some ([], place)
      | some (word, rest) =>
        (plainRest flow floor rounds
          { rest, line := place.line, column := place.column + word.length, fresh := false }).map
          fun (text, c) => (gap.fold.text ++ word ++ text, c)

/-- The plain scalar at a place. Its lines after the first have to be indented by `floor`. -/
def plain (flow : Bool) (floor : Nat) (c : Cursor) : Option (Yaml × Cursor) :=
  match plainWord flow c.rest with
  | none => none
  | some (word, rest) =>
    (plainRest flow floor rest.length
      { rest, line := c.line, column := c.column + word.length, fresh := false }).map
      fun (text, c) => (.scalar (String.ofList (word ++ text)) true, c)

/-- Whether a character has another meaning at the start of a node. -/
def isIndicator (c : Char) : Bool :=
  "-?:,[]\x7b\x7d#&*!|>\x27\"%@\x60".toList.contains c

/-- Whether a plain scalar starts with the given characters. -/
def startsPlain (flow : Bool) : List Char → Bool
  | [] => false
  | c :: cs =>
    !endsWord (c :: cs) &&
      (!isIndicator c || (c == '-' && !endsWord cs) ||
        (!flow && (c == '?' || c == ':') && !endsWord cs))

/-! ## Quoted scalars -/

/-- What was read of a quoted scalar, with some text before it. -/
def prepend (text : List Char) (r : List Char × Cursor) : List Char × Cursor :=
  (text ++ r.1, r.2)

/-- The rest of a scalar in single quotes, in which two quotes stand for one. -/
def singleRest (fold : Fold) (line column : Nat) : List Char → Option (List Char × Cursor)
  | [] => none
  | c :: cs =>
    if isBlank c then singleRest (fold.withBlank c) line (column + 1) cs
    else if isBreak c then singleRest (fold.withBreak c) (line + 1) 0 cs
    else if Cursor.atMarker ⟨c :: cs, line, column, false⟩ then none
    else if c = '\x27' then
      match cs with
      | '\x27' :: cs => (singleRest .none line (column + 2) cs).map (prepend (fold.text ++ [c]))
      | cs => some (fold.text, ⟨cs, line, column + 1, false⟩)
    else (singleRest .none line (column + 1) cs).map (prepend (fold.text ++ [c]))

/-- The character that a backslash and `c` stand for in double quotes. -/
def escaped? (c : Char) : Option Char :=
  [('0', '\x00'), ('a', '\x07'), ('b', '\x08'), ('t', '\t'), ('\t', '\t'), ('n', '\n'),
   ('v', '\x0b'), ('f', '\x0c'), ('r', '\r'), ('e', '\x1b'), (' ', ' '), ('"', '"'), ('/', '/'),
   ('\\', '\\'), ('N', '\x85'), ('_', '\xa0'), ('L', '\u2028'), ('P', '\u2029')].lookup c

/-- How many hexadecimal digits follow a backslash and `c`. -/
def escapeWidth? (c : Char) : Option Nat :=
  [('x', 2), ('u', 4), ('U', 8)].lookup c

/-- The character with a code point given by exactly `width` hexadecimal digits. -/
def coded? (width : Nat) (cs : List Char) : Option Char := do
  guard (cs.length = width)
  let n ← digits? 16 0x110000 cs
  if 0xD800 ≤ n && n ≤ 0xDFFF then none else some (Char.ofNat n)

/-- The rest of a scalar in double quotes, with its escapes resolved. -/
def doubleRest (fold : Fold) (line column : Nat) : List Char → Option (List Char × Cursor)
  | [] => none
  | c :: cs =>
    if isBlank c then doubleRest (fold.withBlank c) line (column + 1) cs
    else if isBreak c then doubleRest (fold.withBreak c) (line + 1) 0 cs
    else if Cursor.atMarker ⟨c :: cs, line, column, false⟩ then none
    else if c = '"' then some (fold.text, ⟨cs, line, column + 1, false⟩)
    else if c = '\\' then
      match cs with
      | [] => none
      | e :: cs =>
        if isBreak e then
          (doubleRest (.joined []) (line + 1) 0 cs).map (prepend fold.text)
        else match escapeWidth? e with
          | some width =>
            match coded? width (cs.take width) with
            | some d =>
              (doubleRest .none line (column + 2 + width) (cs.drop width)).map
                (prepend (fold.text ++ [d]))
            | none => none
          | none =>
            match escaped? e with
            | some d => (doubleRest .none line (column + 2) cs).map (prepend (fold.text ++ [d]))
            | none => none
    else (doubleRest .none line (column + 1) cs).map (prepend (fold.text ++ [c]))
  termination_by cs => cs.length

/-- A quoted scalar from what was read of it. -/
def quoted (r : Option (List Char × Cursor)) : Option (Yaml × Cursor) :=
  r.map fun (text, c) => (.scalar (String.ofList text) false, c)

/-- The scalar in single quotes at a place, which is behind the opening quote. -/
def singleQuoted (c : Cursor) : Option (Yaml × Cursor) :=
  quoted (singleRest .none c.line c.column c.rest)

/-- The scalar in double quotes at a place, which is behind the opening quote. -/
def doubleQuoted (c : Cursor) : Option (Yaml × Cursor) :=
  quoted (doubleRest .none c.line c.column c.rest)

end TileCache.Yaml
