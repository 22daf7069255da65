import TileCache.Json.Reader
import TileCache.Json.Record
import TileCache.Tile
set_option autoImplicit false

/-!
# Coordinates and ranges as JSON

A coordinate or a range is written as an object with its fields in the order of their declaration.
It is read from such an object with the fields in any order, or from an array of all its fields.
Only the parameters of a range may be left out of an object.

## Main definitions

* `Coord.toJson`, `Coord.ofJson?`, `Coord.parse?` — a coordinate as a value and as a text.
* `TileRange.toJson`, `TileRange.ofJson?`, `TileRange.parse?` — the same for a range.
-/

namespace TileCache

/-- A 32-bit word as a value. -/
def Json.ofWord32 (n : UInt32) : Json :=
  .ofNat n.toNat

namespace Coord

/-- A coordinate as a value. -/
def toJson (c : Coord) : Json :=
  .ofMembers [("z", .ofWord32 c.z), ("x", .ofWord32 c.x), ("y", .ofWord32 c.y)]

/-- The coordinate with the given values for its fields. -/
def ofFields? (z x y : Json) : Option Coord := do
  return { z := ← z.word32?, x := ← x.word32?, y := ← y.word32? }

/-- The coordinate that a value stands for. -/
def ofJson? : Json → Option Coord
  | .object ms => do
    guard (Json.Members.wellNamed ms)
    ofFields? (← Json.Members.required? ms "z") (← Json.Members.required? ms "x")
      (← Json.Members.required? ms "y")
  | .array [z, x, y] => ofFields? z x y
  | _ => none

/-- The coordinate that a JSON text stands for. -/
def parse? (text : String) : Option Coord := do
  ofJson? (← Json.parse? text.toList)

end Coord

namespace TileRange

/-- A range as a value. -/
def toJson (r : TileRange) : Json :=
  .ofMembers
    [("layer_name", .ofText r.layer), ("gridset_id", .ofText r.gridset),
     ("zoom_start", .ofWord32 r.zoomStart), ("zoom_stop", .ofWord32 r.zoomStop),
     ("blob_format", .ofText r.format), ("parameters_id", .ofOption .ofText r.parameters)]

/-- The range with the given values for its fields. -/
def ofFields? (layer gridset zoomStart zoomStop format parameters : Json) : Option TileRange := do
  return { layer := ← layer.text?, gridset := ← gridset.text?, zoomStart := ← zoomStart.word32?,
           zoomStop := ← zoomStop.word32?, format := ← format.text?,
           parameters := ← Json.nullable? Json.text? parameters }

/-- The range that a value stands for. -/
def ofJson? : Json → Option TileRange
  | .object ms => do
    guard (Json.Members.wellNamed ms)
    let parameters ← Json.Members.field? ms "parameters_id"
    ofFields? (← Json.Members.required? ms "layer_name") (← Json.Members.required? ms "gridset_id")
      (← Json.Members.required? ms "zoom_start") (← Json.Members.required? ms "zoom_stop")
      (← Json.Members.required? ms "blob_format") (parameters.getD .null)
  | .array [layer, gridset, zoomStart, zoomStop, format, parameters] =>
    ofFields? layer gridset zoomStart zoomStop format parameters
  | _ => none

/-- The range that a JSON text stands for. -/
def parse? (text : String) : Option TileRange := do
  ofJson? (← Json.parse? text.toList)

end TileRange

end TileCache
