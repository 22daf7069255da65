import TileCache.Error
import TileCache.Format
import TileCache.Key
import TileCache.Tile
set_option autoImplicit false

/-!
# Where things are kept

The layout of one store's objects in a bucket. Below the root of the store a tile and the metadata
of a layer are kept at

```text
<root>/<layer>/<gridset>/<format id>/<parameters id>/<z>/<x>/<y>.<extension>
<root>/<layer>/metadata.properties
```

Every identifier is one segment, so that distinct addresses never share a key and the keys of a
layer are exactly those below the layer's own key.

## Main definitions

* `Layout` — the root of a store, from a text by `Layout.ofText`.
* `Layout.layer`, `Layout.gridset` — the keys that the objects of a layer or a gridset are below.
* `Layout.tile`, `Layout.metadata` — the keys of a tile and of a layer's metadata.
* `Layout.isMetadata` — whether a key is that of some layer's metadata.
-/

namespace TileCache

/-- The layout of one store: everything is below its root. -/
structure Layout where
  root : Key
  deriving DecidableEq

namespace Layout

/-- The layout below a root given as a text, whose levels are parted by slashes. -/
def ofText (root : String) : Layout :=
  ⟨Key.ofText root⟩

/-- The leaf of a layer's metadata. No tile's leaf has this name, for those begin with a number. -/
def metadataLeaf : Segment :=
  ⟨"metadata.properties", by decide, by decide⟩

/-- The parameters segment of tiles drawn with default parameters. -/
def defaultParameters : String := "default"

/-- The segment of an identifier, which must not be empty. -/
def segment (what : Identifier) (identifier : String) : Except StorageError Segment :=
  if h : identifier = "" then .error (.invalidArgument (.empty what))
  else .ok (Segment.encode identifier h)

/-- The segment of a number. -/
def numeral (n : UInt32) : Segment :=
  Segment.encode (toString n.toNat) (by simp [Nat.toString_eq_repr, Nat.repr_ne_empty])

/-- The key that all objects of a layer are below. -/
def layer (l : Layout) (name : String) : Except StorageError Key := do
  let s ← segment .layer name
  return l.root.child s

/-- The key that all tiles of a layer in one gridset are below. -/
def gridset (l : Layout) (name gridset : String) : Except StorageError Key := do
  let base ← l.layer name
  let s ← segment .gridset gridset
  return base.child s

/-- The last segment of a tile's key: its row and the extension of its format. -/
def tileLeaf (tile : Tile) : Segment :=
  Segment.encode (toString tile.coord.y.toNat ++ "." ++ Format.extensionOf tile.format) (by simp)

/-- The key of a tile. -/
def tile (l : Layout) (tile : Tile) : Except StorageError Key := do
  let base ← l.gridset tile.layer tile.gridset
  let format ← segment .format (Format.canonicalId tile.format)
  let parameters ← segment .parameters (tile.parameters.getD defaultParameters)
  return base.child format |>.child parameters |>.child (numeral tile.coord.z)
    |>.child (numeral tile.coord.x) |>.child (tileLeaf tile)

/-- The key of a layer's metadata. -/
def metadata (l : Layout) (name : String) : Except StorageError Key := do
  let base ← l.layer name
  return base.child metadataLeaf

/-- Whether a key is that of some layer's metadata. -/
def isMetadata (key : Key) : Bool :=
  key.leaf? == some metadataLeaf

end Layout

end TileCache
