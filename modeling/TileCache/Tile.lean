import TileCache.Text.Utf8
set_option autoImplicit false

/-!
# Tiles

A tile is addressed by layer, gridset, coordinate, format and an optional set of request
parameters. The caller fills in the blob before the tile is stored; the store fills it in, with its
size and its time of writing, when the tile is fetched.

## Main definitions

* `Coord` — zoom level, column and row.
* `Tile` — an address with what is known of the stored object.
* `Tile.withBlob`, `Tile.withoutBlob`, `Tile.address` — the ways a caller changes a tile.
* `TileRange` — the tiles of one layer and gridset between two zoom levels.
-/

namespace TileCache

/-- The place of a tile in its gridset. -/
structure Coord where
  /-- The zoom level. -/
  z : UInt32
  /-- The column. -/
  x : UInt32
  /-- The row. -/
  y : UInt32
  deriving DecidableEq, Repr

/-- The coordinate as a text: zoom level, column, row. -/
def Coord.text (c : Coord) : String :=
  s!"{c.z.toNat}/{c.x.toNat}/{c.y.toNat}"

/-- A tile: its address and, once stored or fetched, its blob. -/
structure Tile where
  layer : String
  gridset : String
  coord : Coord
  /-- The media type or the short name of the blob's format. -/
  format : String
  /-- The set of request parameters the tile was drawn with; `none` is the default set. -/
  parameters : Option String := none
  blob : Option Octets := none
  /-- The size of the blob. It stays when the blob is taken away. -/
  blobSize : Nat := 0
  /-- When the stored object was written, on the bucket's clock. -/
  created : Option Nat := none
  deriving DecidableEq, Repr

namespace Tile

/-- The tile with a payload, its size being that of the payload. -/
def withBlob (tile : Tile) (blob : Octets) : Tile :=
  { tile with blob := some blob, blobSize := blob.length }

/-- The tile without its payload. -/
def withoutBlob (tile : Tile) : Tile :=
  { tile with blob := none }

/-- The tile drawn with a set of request parameters. -/
def withParameters (tile : Tile) (parameters : String) : Tile :=
  { tile with parameters := some parameters }

/-- The bare address of a tile. -/
def address (tile : Tile) : Tile :=
  { layer := tile.layer, gridset := tile.gridset, coord := tile.coord, format := tile.format,
    parameters := tile.parameters }

/-- The address of a tile as a text. -/
def text (tile : Tile) : String :=
  let base := s!"{tile.layer}:{tile.gridset}:{tile.coord.text}:{tile.format}"
  match tile.parameters with
  | none => base
  | some parameters => s!"{base}:{parameters}"

end Tile

/-- The tiles of one layer and gridset between two zoom levels. -/
structure TileRange where
  layer : String
  gridset : String
  zoomStart : UInt32
  zoomStop : UInt32
  format : String
  parameters : Option String := none
  deriving DecidableEq, Repr

end TileCache
