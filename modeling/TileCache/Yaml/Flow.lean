import TileCache.Yaml.Scalar
set_option autoImplicit false

/-!
# Flow collections

Sequences in brackets and mappings in braces. Line ends mean nothing in them, except that a key
and its colon have to be on one line. An item of a sequence may be a mapping with a single entry.

Every node takes a character at least, and every item one more, so that twice as many rounds as
there are characters are enough.

## Main definitions

* `Yaml.Flow.node` — the scalar or flow collection at a place.
-/

namespace TileCache.Yaml.Flow

/-- A collection from what was read of its items. -/
def collect {α : Type} (make : List α → Yaml) (r : Option (List α × Cursor)) :
    Option (Yaml × Cursor) :=
  r.map fun (items, c) => (make items, c)

mutual

/-- The node at a place. Lines of plain scalars have to be indented by `floor`. -/
def nodeWithin (floor rounds : Nat) (c : Cursor) : Option (Yaml × Cursor) :=
  match rounds with
  | 0 => none
  | rounds + 1 =>
    if c.atMarker then none
    else match c.rest with
      | '[' :: _ => collect .sequence (items floor rounds (c.advance 1))
      | '\x7b' :: _ => collect .mapping (entries floor rounds (c.advance 1))
      | '\x27' :: _ => singleQuoted (c.advance 1)
      | '"' :: _ => doubleQuoted (c.advance 1)
      | cs => if startsPlain true cs then plain true floor c else none

/-- The value after the key that starts at `start`, at the place behind the key; `none` inside if
there is no colon. The collection ends with `close`. -/
def valueWithin (floor rounds : Nat) (start : Cursor) (close : Char) (c : Cursor) :
    Option (Option Yaml × Cursor) :=
  match rounds with
  | 0 => none
  | rounds + 1 =>
    let colon := c.skipFlow
    if colon.rest.head? != some ':' then some (none, colon)
    else if !start.closesKey colon then none
    else
      let place := (colon.advance 1).skipFlow
      if place.rest.head? == some ',' || place.rest.head? == some close then
        some (some .empty, place)
      else (nodeWithin floor rounds place).map fun (value, c) => (some value, c)

/-- The items of a sequence up to its closing bracket. -/
def items (floor rounds : Nat) (c : Cursor) : Option (List Yaml × Cursor) :=
  match rounds with
  | 0 => none
  | rounds + 1 =>
    let place := c.skipFlow
    if place.rest.head? == some ']' then some ([], place.advance 1)
    else match nodeWithin floor rounds place with
      | none => none
      | some (first, c) =>
        match valueWithin floor rounds place ']' c with
        | none => none
        | some (value, c) =>
          let item := match value with
            | none => first
            | some value => .mapping [(first, value)]
          let place := c.skipFlow
          match place.rest with
          | ']' :: _ => some ([item], place.advance 1)
          | ',' :: _ =>
            (items floor rounds (place.advance 1)).map fun (rest, c) => (item :: rest, c)
          | _ => none

/-- The entries of a mapping up to its closing brace. -/
def entries (floor rounds : Nat) (c : Cursor) : Option (List (Yaml × Yaml) × Cursor) :=
  match rounds with
  | 0 => none
  | rounds + 1 =>
    let place := c.skipFlow
    if place.rest.head? == some '\x7d' then some ([], place.advance 1)
    else match nodeWithin floor rounds place with
      | none => none
      | some (key, c) =>
        match valueWithin floor rounds place '\x7d' c with
        | none => none
        | some (value, c) =>
          let entry := (key, value.getD .empty)
          let place := c.skipFlow
          match place.rest with
          | '\x7d' :: _ => some ([entry], place.advance 1)
          | ',' :: _ =>
            (entries floor rounds (place.advance 1)).map fun (rest, c) => (entry :: rest, c)
          | _ => none

end

/-- The scalar or flow collection at a place. Lines of plain scalars have to be indented by
`floor`. -/
def node (floor : Nat) (c : Cursor) : Option (Yaml × Cursor) :=
  nodeWithin floor (2 * c.rest.length + 1) c

end TileCache.Yaml.Flow
