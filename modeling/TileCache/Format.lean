import TileCache.Text.Blank
set_option autoImplicit false

/-!
# Tile formats

Each known media type has a short identifier, which is a segment of the tile's key, and a file
extension, which ends the tile's leaf. Formats may share an extension, so it is the identifier that
keeps the keys of different formats apart.

## Main definitions

* `Format.known` — the table of known formats.
* `Format.find?` — a format by media type or identifier, ignoring ASCII case and blanks.
* `Format.canonicalId` — the one identifier that all spellings of a format share.
-/

namespace TileCache

/-- A known tile format. -/
structure Format where
  /-- The canonical media type. -/
  mediaType : String
  /-- The short identifier, a segment of the key. -/
  id : String
  /-- The extension of the stored object. -/
  extension : String
  deriving DecidableEq, Repr

namespace Format

/-- The extension of tiles whose format is not in the table. -/
def unknownExtension : String := "bin"

/-- The known formats. -/
def known : List Format :=
  [⟨"image/png", "png", "png"⟩,
   ⟨"image/png8", "png8", "png"⟩,
   ⟨"image/png; mode=8bit", "png8", "png"⟩,
   ⟨"image/png24", "png24", "png"⟩,
   ⟨"image/jpeg", "jpeg", "jpeg"⟩,
   ⟨"image/vnd.jpeg-png", "jpeg-png", "jpeg"⟩,
   ⟨"image/vnd.jpeg-png8", "jpeg-png8", "jpeg"⟩,
   ⟨"image/gif", "gif", "gif"⟩,
   ⟨"image/tiff", "tiff", "tiff"⟩,
   ⟨"image/webp", "webp", "webp"⟩,
   ⟨"image/bmp", "bmp", "bmp"⟩,
   ⟨"image/svg+xml", "svg", "svg"⟩,
   ⟨"application/vnd.mapbox-vector-tile", "pbf", "pbf"⟩,
   ⟨"application/json;type=geojson", "geojson", "geojson"⟩,
   ⟨"application/json;type=topojson", "topojson", "topojson"⟩,
   ⟨"application/json;type=utfgrid", "utfgrid", "json"⟩,
   ⟨"text/plain", "txt", "txt"⟩,
   ⟨"text/html", "html", "html"⟩,
   ⟨"application/vnd.google-earth.kml+xml", "kml", "kml"⟩]

/-- The spelling by which formats are compared: no blanks, ASCII letters in lower case. -/
def normalize (name : String) : String :=
  String.ofList ((name.toList.filter fun c => !Text.isBlank c).map Char.toLower)

/-- The first known format whose media type or identifier has the spelling of `name`. -/
def find? (name : String) : Option Format :=
  let wanted := normalize name
  known.find? fun format => normalize format.mediaType == wanted || format.id == wanted

/-- The identifier of a format: that of the table, or the name itself if it is not in there. -/
def canonicalId (name : String) : String :=
  match find? name with
  | some format => format.id
  | none => name

/-- The extension of tiles in a format. -/
def extensionOf (name : String) : String :=
  match find? name with
  | some format => format.extension
  | none => unknownExtension

end Format

end TileCache
