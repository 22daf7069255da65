import TileCache.Tile
set_option autoImplicit false

/-!
# Sample tiles

Tiles made up for trying a store out: a zoom level filled row by row, each tile with a small blob
that starts like a PNG file and otherwise depends on the coordinate.

## Main definitions

* `Sample.png` — a blob with a PNG header and a body that counts up from a seed.
* `Sample.tile` — the sample tile at a coordinate.
* `Sample.tiles`, `Sample.gridsetTiles` — the first so many tiles of a zoom level.
-/

namespace TileCache.Sample

/-- The PNG signature and the header of the first chunk. -/
def pngHeader : Octets :=
  [0x89, 0x50, 0x4E, 0x47, 0x0D, 0x0A, 0x1A, 0x0A, 0x00, 0x00, 0x00, 0x0D, 0x49, 0x48, 0x44, 0x52]

/-- A PNG header with `length` octets behind it that count up from `seed`. -/
def png (seed : UInt8) (length : Nat) : Octets :=
  pngHeader ++ (List.range length).map fun i => seed + UInt8.ofNat i

/-- The gridset of sample tiles, unless another is asked for. -/
def gridset : String := "EPSG:4326"

/-- The format of sample tiles. -/
def format : String := "image/png"

/-- The sample tile of a layer at a coordinate. -/
def tile (layer : String) (coord : Coord) : Tile :=
  { layer, gridset, coord, format : Tile }.withBlob (png (coord.x ^^^ coord.y).toUInt8 32)

/-- How many tiles make up a row: `2 ^ z`, at most `2 ^ 16`. -/
def rowWidth (z : UInt32) : Nat :=
  1 <<< min z.toNat 16

/-- The place of tile number `i` at zoom level `z`, row by row. -/
def coord (z : UInt32) (i : Nat) : Coord :=
  { z, x := UInt32.ofNat (i % rowWidth z), y := UInt32.ofNat (i / rowWidth z) }

/-- The first `count` sample tiles of a layer at zoom level `z`. -/
def tiles (layer : String) (z : UInt32) (count : Nat) : List Tile :=
  (List.range count).map fun i => tile layer (coord z i)

/-- The first `count` sample tiles of a layer at zoom level `z`, in a gridset of one's own. -/
def gridsetTiles (layer gridset : String) (z : UInt32) (count : Nat) : List Tile :=
  (tiles layer z count).map fun tile => { tile with gridset }

end TileCache.Sample
