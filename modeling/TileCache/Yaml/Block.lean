import TileCache.Yaml.Flow
set_option autoImplicit false

/-!
# Block collections and documents

Mappings and sequences by indentation. The entries of a collection start in one column, and what
belongs to an entry is indented further; only a sequence that is the value of an entry may start in
the column of its key. A key and its colon are on one line.

A text is one document at most. Anchors, tags, block scalars, directives and keys that are marked
by a question mark are not supported and make the text unreadable.

## Main definitions

* `Yaml.Block.node` — the node at a place.
* `Yaml.parse?` — the value of a whole text.
-/

namespace TileCache.Yaml

namespace Block

/-- Whether a dash that marks an item starts the given characters. -/
def isDash : List Char → Bool
  | '-' :: cs => endsWord cs
  | _ => false

/-- The scalar or flow collection at a place. -/
def atom (floor : Nat) (c : Cursor) : Option (Yaml × Cursor) :=
  match c.rest.head? with
  | some h =>
    if h == '[' || h == '\x7b' || h == '\x27' || h == '"' then Flow.node floor c
    else if startsPlain false c.rest then plain false floor c
    else none
  | none => none

/-- The place behind the colon that makes a key of what stands between `start` and `c`. -/
def colon? (start c : Cursor) : Option Cursor :=
  let place := c.skip
  match place.rest with
  | ':' :: cs => if endsWord cs && start.closesKey place then some (place.advance 1) else none
  | _ => none

mutual

/-- The node at a place, whose lines have to be indented by `floor`. -/
def nodeWithin (floor rounds : Nat) (c : Cursor) : Option (Yaml × Cursor) :=
  match rounds with
  | 0 => none
  | rounds + 1 =>
    if isDash c.rest then
      if c.fresh then Flow.collect .sequence (items c.column rounds c) else none
    else match atom floor c with
      | none => none
      | some (first, after) =>
        match if c.fresh then colon? c after else none with
        | some place => Flow.collect .mapping (entries c.column rounds first place)
        | none => some (first, after)

/-- The entries of a mapping in a column, of which the first key was read, up to a place with less
indentation. -/
def entries (column rounds : Nat) (key : Yaml) (c : Cursor) :
    Option (List (Yaml × Yaml) × Cursor) :=
  match rounds with
  | 0 => none
  | rounds + 1 =>
    let place := c.skip
    let value :=
      if place.isEnd then some (.empty, place)
      else if column < place.column then nodeWithin (column + 1) rounds place
      else if place.column = column && isDash place.rest then
        Flow.collect .sequence (items column rounds place)
      else some (.empty, place)
    match value with
    | none => none
    | some (value, c) =>
      let next := c.skip
      if next.isEnd || next.column < column then some ([(key, value)], next)
      else if next.column = column && next.fresh && !isDash next.rest then
        match atom (column + 1) next with
        | none => none
        | some (nextKey, after) =>
          match colon? next after with
          | none => none
          | some place =>
            (entries column rounds nextKey place).map fun (rest, c) => ((key, value) :: rest, c)
      else none

/-- The items of a sequence whose dashes are in a column, up to a place without such a dash. -/
def items (column rounds : Nat) (c : Cursor) : Option (List Yaml × Cursor) :=
  match rounds with
  | 0 => none
  | rounds + 1 =>
    let place := { c.advance 1 with fresh := true }.skip
    let item :=
      if place.isEnd || place.column ≤ column then some (.empty, place)
      else nodeWithin (column + 1) rounds place
    match item with
    | none => none
    | some (item, c) =>
      let next := c.skip
      if !next.isEnd && next.column = column && next.fresh && isDash next.rest then
        (items column rounds next).map fun (rest, c) => (item :: rest, c)
      else some ([item], next)

end

/-- The node at a place of a document. Every round but one in two takes a character. -/
def node (c : Cursor) : Option (Yaml × Cursor) :=
  nodeWithin 0 (2 * c.rest.length + 1) c

end Block

/-- Whether only markers that end a document follow. -/
def endsText (rounds : Nat) (c : Cursor) : Bool :=
  match rounds with
  | 0 => false
  | rounds + 1 =>
    let place := c.skip
    place.rest.isEmpty ||
      (place.atMarker && place.rest.head? == some '.' && endsText rounds (place.advance 3))

/-- The place where the document of a text starts, behind its marker if there is one. -/
def documentStart (text : List Char) : Cursor :=
  let place := Cursor.skip { rest := unifyBreaks text }
  if place.atMarker && place.rest.head? == some '-' then (place.advance 3).skip else place

/-- The value of a text, which must be one document; a text without any is the empty scalar. -/
def parse? (text : List Char) : Option Yaml := do
  guard (text.all isAllowed)
  let start := documentStart text
  let (value, c) ← if start.isEnd then some (.empty, start) else Block.node start
  guard (endsText (c.rest.length + 1) c)
  return value

end TileCache.Yaml
