import TileCache.Error
import TileCache.SortedMap
import TileCache.Text.Blank
set_option autoImplicit false

/-!
# Layer metadata as text

The metadata of a layer is a small map from texts to texts. It is stored as lines `key=value`,
sorted by key, so that it can be read and edited by hand. A reader also accepts `:` or blanks
between key and value, blank lines, and comment lines that start with `#` or `!`.

A backslash takes a character out of its role; `\n`, `\r` and `\t` stand for the line feed, the
carriage return and the tab. The writer escapes what the reader would take for the end of the key,
for a comment, for a line end, or for blanks that are skipped.

## Main definitions

* `Properties` — the map.
* `Properties.escape`, `Properties.encode` — one key or value as written, and the whole map.
* `Properties.lineBinding?` — the key and the value of one line.
* `Properties.decode` — the map of stored octets.
-/

namespace TileCache

/-- The metadata of a layer. -/
abbrev Properties := SortedMap String String

namespace Properties

/-- The media type of stored metadata. -/
def contentType : String := "text/plain"

/-! ## Writing -/

/-- The two parts of an entry, which are escaped differently. -/
inductive Part
  | key
  | value
  deriving DecidableEq, Repr

/-- Whether `c` needs a backslash before it, standing first in its part or not. Separators and
comment marks matter in keys only, blanks matter in keys and at the start of values. -/
def needsBackslash (part : Part) (first : Bool) (c : Char) : Bool :=
  c == '\\' ||
    (part = .key && (c == '=' || c == ':')) ||
    (part = .key && first && (c == '#' || c == '!')) ||
    (Text.isBlank c && (first || part = .key))

/-- One character of a key or a value as written. -/
def escapeChar (part : Part) (first : Bool) (c : Char) : List Char :=
  if c = '\n' then ['\\', 'n']
  else if c = '\r' then ['\\', 'r']
  else if c = '\t' then ['\\', 't']
  else if needsBackslash part first c then ['\\', c]
  else [c]

/-- A key or a value as written. -/
def escape (part : Part) : List Char → List Char
  | [] => []
  | c :: cs => escapeChar part true c ++ cs.flatMap (escapeChar part false)

/-- The line of one entry, with its line feed. -/
def entryLine (key value : String) : List Char :=
  escape .key key.toList ++ '=' :: escape .value value.toList ++ ['\n']

/-- The characters of a map as written, by increasing key. -/
def encodeChars (m : Properties) : List Char :=
  m.entries.flatMap fun (key, value) => entryLine key value

/-- The stored octets of a map. -/
def encode (m : Properties) : Octets :=
  Utf8.encode (String.ofList m.encodeChars)

/-! ## Reading -/

/-- The character that a backslash and `c` stand for. -/
def unescape (c : Char) : Char :=
  if c = 'n' then '\n' else if c = 'r' then '\r' else if c = 't' then '\t' else c

/-- Whether `c` ends a key. -/
def endsKey (c : Char) : Bool :=
  c == '=' || c == ':' || Text.isBlank c

/-- A text with its backslashes resolved; a backslash at the very end is dropped. -/
def unescapeAll : List Char → List Char
  | [] => []
  | ['\\'] => []
  | '\\' :: c :: cs => unescape c :: unescapeAll cs
  | c :: cs => c :: unescapeAll cs

/-- The key at the start of a line, its backslashes resolved, and what follows it. -/
def splitKey : List Char → List Char × List Char
  | [] => ([], [])
  | ['\\'] => ([], [])
  | '\\' :: c :: cs =>
    let (key, rest) := splitKey cs
    (unescape c :: key, rest)
  | c :: cs =>
    if endsKey c then ([], c :: cs)
    else
      let (key, rest) := splitKey cs
      (c :: key, rest)

/-- What follows the blanks and the one separator between a key and its value. -/
def skipSeparator (cs : List Char) : List Char :=
  match Text.trimStart cs with
  | [] => []
  | c :: cs => if c == '=' || c == ':' then Text.trimStart cs else c :: cs

/-- The key and the value of a line, if it is neither blank nor a comment. -/
def lineBinding? (line : List Char) : Option (String × String) :=
  match Text.trimStart line with
  | [] => none
  | c :: cs =>
    if c == '#' || c == '!' then none
    else
      let (key, rest) := splitKey (c :: cs)
      some (String.ofList key, String.ofList (unescapeAll (skipSeparator rest)))

/-- A line without the carriage return before its line feed. -/
def dropReturn (line : List Char) : List Char :=
  if line.getLast? = some '\r' then line.dropLast else line

/-- The lines of a text, given the reversed start of the first of them. -/
def linesFrom (start : List Char) : List Char → List (List Char)
  | [] => if start = [] then [] else [start.reverse]
  | c :: cs =>
    if c = '\n' then dropReturn start.reverse :: linesFrom [] cs else linesFrom (c :: start) cs

/-- The lines of a text, each without its line feed and a carriage return before that. What follows
the last line feed is a line too, unless it is empty, and keeps a carriage return at its end. -/
def lines (cs : List Char) : List (List Char) :=
  linesFrom [] cs

/-- The map of a text; of several lines with one key the last one wins. -/
def ofText (cs : List Char) : Properties :=
  SortedMap.ofList ((lines cs).filterMap lineBinding?)

/-- The map of stored octets. -/
def decode (data : Octets) : Except StorageError Properties :=
  match Utf8.decode data with
  | .ok text => .ok (ofText text.toList)
  | .error fault => .error (.metadata (.notUtf8 fault))

end Properties

end TileCache
