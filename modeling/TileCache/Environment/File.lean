import TileCache.Environment
import TileCache.Text.Blank
set_option autoImplicit false

/-!
# Variables in a file

A file of lines `NAME=value` that supplies variables which have no text yet. A value may be bare or
in quotes, may run over several lines inside quotes, and may name other variables, which are
replaced by their texts: `$NAME` or `${NAME}`. Everything before the first faulty line counts.

A file is read in two steps. The first joins lines into entries by watching quotes, backslashes
and comments; the second reads a name and a value from each entry.

## Main definitions

* `Environment.File.LineState` — where the first step stands between two characters.
* `Environment.File.entryTexts` — the texts of the entries.
* `Environment.File.readValue` — the value that a text stands for.
* `Environment.withFile` — the environment supplied from a file.
-/

namespace TileCache.Environment

namespace File

/-! ## From lines to entries -/

/-- Where a line stands between two characters. -/
inductive LineState
  | plain
  /-- Behind a first blank, where a comment may start. -/
  | blank
  | escape
  | weak
  | weakEscape
  | strong
  | strongEscape
  deriving DecidableEq, Repr

/-- The state behind a character that stands outside of quotes. -/
def LineState.outside (c : Char) : LineState :=
  if c = '\\' then .escape
  else if c = '"' then .weak
  else if c = '\x27' then .strong
  else .plain

/-- The state behind a character; none if a comment starts with it. -/
def LineState.next (s : LineState) (c : Char) : Option LineState :=
  match s with
  | .plain =>
    if Text.isBlank c && c != '\n' && c != '\r' then some .blank else some (LineState.outside c)
  | .blank => if c = '#' then none else some (LineState.outside c)
  | .escape => some .plain
  | .weak => some (if c = '\\' then .weakEscape else if c = '"' then .plain else .weak)
  | .weakEscape => some .weak
  | .strong => some (if c = '\\' then .strongEscape else if c = '\x27' then .plain else .strong)
  | .strongEscape => some .strong

/-- How a line ends: in a state, or in a comment that starts behind so many characters. -/
inductive LineEnd
  | state (s : LineState)
  | comment (start : Nat)
  deriving DecidableEq, Repr

/-- How a line ends that starts in a state. -/
def lineEnd (s : LineState) (position : Nat) : List Char → LineEnd
  | [] => .state s
  | c :: cs =>
    match s.next c with
    | none => .comment position
    | some s => lineEnd s (position + 1) cs

/-- A text without the line end that closes it. -/
def dropLineEnd (cs : List Char) : List Char :=
  match cs.reverse with
  | '\n' :: '\r' :: rest => rest.reverse
  | '\n' :: rest => rest.reverse
  | _ => cs

/-- The texts of the entries that some lines make; a fault ends them. Lines join as long as a quote
is open or, at the end of the file, a blank or a backslash leaves the last of them open. A comment
is cut off at its place in the last line. -/
def entryTexts (s : LineState) (held : List Char) : List (Option (List Char)) →
    List (Option (List Char))
  | [] => if s = .plain then [] else [none]
  | none :: _ => [none]
  | some line :: rest =>
    let text := held ++ line
    if (Text.trimStart text).head? = some '#' then some [] :: entryTexts .plain [] rest
    else match lineEnd s 0 line with
      | .comment start => some (text.take start) :: entryTexts .plain [] rest
      | .state .plain => some (dropLineEnd text) :: entryTexts .plain [] rest
      | .state s => entryTexts s text rest

/-- The lines of a file, each with its line feed. -/
def octetLines : Octets → List Octets
  | [] => []
  | b :: rest =>
    if b = 0x0A then [b] :: octetLines rest
    else match octetLines rest with
      | [] => [[b]]
      | line :: lines => (b :: line) :: lines

/-- The octets of a file without a byte order mark. -/
def dropMark : Octets → Octets
  | 0xEF :: 0xBB :: 0xBF :: rest => rest
  | data => data

/-- The lines of a file as texts, each with its line feed; none for one that is not UTF-8. -/
def lines (data : Octets) : List (Option (List Char)) :=
  (octetLines (dropMark data)).map fun line => (Utf8.decode? line).map String.toList

/-! ## Values -/

/-- Where the reader of a value stands. `quoted` says that weak quotes are open. -/
inductive ValueState
  | plain (quoted : Bool)
  | strong
  | escape (quoted : Bool)
  /-- In the name of a variable, of which some characters were read. -/
  | name (quoted : Bool) (read : List Char)
  /-- In the name of a variable in braces. -/
  | braced (quoted : Bool) (read : List Char)
  /-- Behind the value, where only a comment may follow. -/
  | ended
  deriving DecidableEq, Repr

/-- Whether a character belongs to the name of a variable to be replaced: letters and digits do,
and no ASCII character else. -/
def isNameChar (c : Char) : Bool :=
  c.isAlphanum || (0x7F < c.toNat && !Text.isBlank c)

/-- The character that a backslash and `c` stand for. -/
def escaped? (c : Char) : Option Char :=
  if c = 'n' then some '\n'
  else if ['\\', '\x27', '"', '$', ' '].contains c then some c
  else none

/-- The value that a text stands for, given the texts of variables. What directly follows a name
without braces is taken as it is, a quote included. -/
def readValue (text : List Char → List Char) : ValueState → List Char → Option (List Char)
  | .plain false, [] => some []
  | .escape false, [] => some []
  | .name false read, [] => some (text read)
  | .ended, [] => some []
  | _, [] => none
  | .ended, c :: cs =>
    if c = ' ' || c = '\t' then readValue text .ended cs else if c = '#' then some [] else none
  | .escape quoted, c :: cs =>
    match escaped? c with
    | some d => (readValue text (.plain quoted) cs).map (d :: ·)
    | none => none
  | .strong, c :: cs =>
    if c = '\x27' then readValue text (.plain false) cs
    else (readValue text .strong cs).map (c :: ·)
  | .name quoted read, c :: cs =>
    if isNameChar c then readValue text (.name quoted (read ++ [c])) cs
    else if c = '\x7b' && read.isEmpty then readValue text (.braced quoted []) cs
    else if c = '$' then (readValue text (.name quoted []) cs).map (text read ++ ·)
    else (readValue text (.plain quoted) cs).map (text read ++ c :: ·)
  | .braced quoted read, c :: cs =>
    if c = '\x7d' then (readValue text (.plain quoted) cs).map (text read ++ ·)
    else readValue text (.braced quoted (read ++ [c])) cs
  | .plain quoted, c :: cs =>
    if c = '$' then readValue text (.name quoted []) cs
    else if c = '\\' then readValue text (.escape quoted) cs
    else if c = '"' then readValue text (.plain !quoted) cs
    else if quoted then (readValue text (.plain quoted) cs).map (c :: ·)
    else if c = '\x27' then readValue text .strong cs
    else if c = ' ' || c = '\t' then readValue text .ended cs
    else (readValue text (.plain quoted) cs).map (c :: ·)

/-! ## Entries -/

/-- Whether a character may start the name of an entry. -/
def startsName (c : Char) : Bool :=
  c.isAlpha || c == '_'

/-- Whether a character may stand in the name of an entry. -/
def continuesName (c : Char) : Bool :=
  c.isAlphanum || c == '_' || c == '.'

/-- The name at the start of a text, and what follows it and blanks. -/
def readName : List Char → Option (List Char × List Char)
  | [] => none
  | c :: cs =>
    if startsName c then
      some ((c :: cs).takeWhile continuesName, Text.trimStart ((c :: cs).dropWhile continuesName))
    else none

/-- What follows an equals sign. -/
def afterEquals : List Char → Option (List Char)
  | '=' :: cs => some (Text.trimStart cs)
  | _ => none

/-- The name of an entry, and the text of its value. A name may have the word `export` before it. -/
def splitEntry (cs : List Char) : Option (List Char × List Char) := do
  let (name, rest) ← readName cs
  match afterEquals rest with
  | some value => return (name, value)
  | none =>
    guard (name = "export".toList)
    let (name, rest) ← readName rest
    return (name, ← afterEquals rest)

/-- What an entry says. -/
inductive Entry
  /-- It is blank, or a comment. -/
  | blank
  /-- It gives a name the value that a text stands for; an empty text is no value. -/
  | setting (name : String) (value : Option (List Char))
  deriving DecidableEq, Repr

/-- What the text of an entry says, if it is well formed. -/
def Entry.ofText? (text : List Char) : Option Entry :=
  let cs := Text.trimStart (Text.trimEnd text)
  if cs = [] || cs.head? = some '#' then some .blank
  else (splitEntry cs).map fun (name, value) =>
    .setting (String.ofList name)
      (if value = [] || value.head? = some '#' then none else some value)

/-- What earlier entries set, the latest first. -/
abbrev Earlier := List (String × List Char)

/-- The text that replaces the name of a variable: what the environment has, or else what an earlier
entry set, or nothing. -/
def replacement (env : Environment) (earlier : Earlier) (name : List Char) : List Char :=
  match env.text? (String.ofList name) with
  | some text => text.toList
  | none => (earlier.lookup (String.ofList name)).getD []

/-- The environment supplied from entries, up to the first fault. -/
def supplyEntries (env : Environment) (earlier : Earlier) : List (Option (List Char)) → Environment
  | [] => env
  | none :: _ => env
  | some text :: rest =>
    match Entry.ofText? text with
    | none => env
    | some .blank => supplyEntries env earlier rest
    | some (.setting name none) =>
      supplyEntries (env.supply name "") ((name, []) :: earlier) rest
    | some (.setting name (some value)) =>
      match readValue (replacement env earlier) (.plain false) value with
      | none => env
      | some value =>
        supplyEntries (env.supply name (String.ofList value)) ((name, value) :: earlier) rest

end File

/-- The environment supplied from a file. -/
def withFile (env : Environment) (data : Octets) : Environment :=
  File.supplyEntries env [] (File.entryTexts .plain [] (File.lines data))

end TileCache.Environment
