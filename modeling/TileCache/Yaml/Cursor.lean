import TileCache.Yaml
set_option autoImplicit false

/-!
# Places in a YAML text

A reader of YAML has to know its column, for indentation is structure, and whether a block
collection may start where it stands: that is so only if nothing but blanks and dashes went before
on the line. Both are kept beside the characters that follow.

## Main definitions

* `Yaml.Cursor` — a place in a text.
* `Yaml.Cursor.skip` — the next place that is neither blank nor in a comment.
* `Yaml.Cursor.isEnd` — whether the text or the document ends at a place.
* `Yaml.unifyBreaks`, `Yaml.isAllowed` — the characters of a text, line ends in one form.
-/

namespace TileCache.Yaml

/-! ## Characters -/

/-- Whether a character may stand in a text at all. -/
def isAllowed (c : Char) : Bool :=
  let n := c.toNat
  n == 0x09 || n == 0x0A || n == 0x0D || (0x20 ≤ n && n ≤ 0x7E) || n == 0x85 ||
    (0xA0 ≤ n && n ≤ 0xFFFD) || 0x10000 ≤ n

/-- The text with its line ends in one form. Two rare line separators stay as they are. -/
def unifyBreaks : List Char → List Char
  | [] => []
  | '\r' :: '\n' :: cs => '\n' :: unifyBreaks cs
  | c :: cs => (if c = '\r' || c = '\x85' then '\n' else c) :: unifyBreaks cs

/-- Whether a character ends a line. -/
def isBreak (c : Char) : Bool :=
  c == '\n' || c == '\u2028' || c == '\u2029'

/-- Whether a character parts words within a line. -/
def isBlank (c : Char) : Bool :=
  c == ' ' || c == '\t'

/-- Whether a word ends before the given characters. -/
def endsWord : List Char → Bool
  | [] => true
  | c :: _ => isBlank c || isBreak c

/-! ## Places -/

/-- A place in a text. -/
structure Cursor where
  /-- The characters that follow. -/
  rest : List Char
  line : Nat := 0
  column : Nat := 0
  /-- Whether a block collection may start here. -/
  fresh : Bool := true

namespace Cursor

/-- The place some characters later on the same line, after a token. -/
def advance (c : Cursor) (n : Nat) : Cursor :=
  { rest := c.rest.drop n, line := c.line, column := c.column + n, fresh := false }

/-- Whether a dash or dot marker between documents stands at a place. -/
def atMarker (c : Cursor) : Bool :=
  c.column == 0 &&
    match c.rest with
    | '-' :: '-' :: '-' :: cs => endsWord cs
    | '.' :: '.' :: '.' :: cs => endsWord cs
    | _ => false

/-- Whether the text or the document ends at a place. -/
def isEnd (c : Cursor) : Bool :=
  c.rest.isEmpty || c.atMarker

/-- The next place that is neither blank nor in a comment. In a block a tab is blank only behind a
token, for it must not indent. A byte order mark may stand at the start of a line. -/
def skipFrom (flow comment fresh : Bool) (line column : Nat) : List Char → Cursor
  | [] => ⟨[], line, column, fresh⟩
  | c :: cs =>
    if isBreak c then skipFrom flow false (fresh || !flow) (line + 1) 0 cs
    else if comment then skipFrom flow true fresh line (column + 1) cs
    else if c = ' ' || (c = '\t' && (flow || !fresh)) || (c = '\ufeff' && column = 0) then
      skipFrom flow false fresh line (column + 1) cs
    else if c = '#' then skipFrom flow true fresh line (column + 1) cs
    else ⟨c :: cs, line, column, fresh⟩

/-- The next place in a block that is neither blank nor in a comment. -/
def skip (c : Cursor) : Cursor :=
  skipFrom false false c.fresh c.line c.column c.rest

/-- The next place in a flow collection that is neither blank nor in a comment. -/
def skipFlow (c : Cursor) : Cursor :=
  skipFrom true false c.fresh c.line c.column c.rest

/-- The most characters that may lie between the start of a key and its colon. -/
def maxKeySpan : Nat := 1024

/-- Whether a colon at `colon` can end a key that starts at `start`: they are on one line, and near
enough. -/
def closesKey (start colon : Cursor) : Bool :=
  colon.line == start.line && colon.column ≤ start.column + maxKeySpan

end Cursor

end TileCache.Yaml
