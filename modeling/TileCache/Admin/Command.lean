import TileCache.Text.Quoted
import TileCache.Tile
set_option autoImplicit false

/-!
# Commands of the admin command line

What an administrator can ask for, and what else the command line settles: the file of settings and
the level of the log.

## Main definitions

* `Admin.TileAddress` — the address of a tile as it is given, with its tile `TileAddress.tile`.
* `Admin.Command` — what is asked for.
* `Admin.Command.isMutating` — whether a command may change the bucket.
* `Admin.Invocation` — a whole command line.
-/

namespace TileCache.Admin

/-- The address of a tile as it is given. -/
structure TileAddress where
  layer : String
  gridset : String
  coord : Coord
  format : String
  parameters : Option String := none
  deriving DecidableEq, Repr

/-- The bare tile at an address. -/
def TileAddress.tile (a : TileAddress) : Tile :=
  { layer := a.layer, gridset := a.gridset, coord := a.coord, format := a.format,
    parameters := a.parameters }

/-- What is asked for. -/
inductive Command
  /-- To see whether the bucket can be reached. -/
  | check
  | deleteLayer (layer : String)
  | deleteGridset (layer gridset : String)
  | getMetadata (layer key : String)
  | putMetadata (layer key value : String)
  /-- To write a tile's blob to a file, or to the standard output if none is named. -/
  | getTile (address : TileAddress) (output : Option String)
  /-- To store a tile whose blob is in a file. -/
  | putTile (address : TileAddress) (input : String)
  deriving DecidableEq, Repr

/-- Whether a command may change the bucket. -/
def Command.isMutating : Command → Bool
  | .deleteLayer _ => true
  | .deleteGridset .. => true
  | .putMetadata .. => true
  | .putTile .. => true
  | .check => false
  | .getMetadata .. => false
  | .getTile .. => false

/-- A whole command line. -/
structure Invocation where
  /-- The file of settings, unless they come from the environment. -/
  config : Option String := none
  logLevel : String := "info"
  command : Command
  deriving DecidableEq, Repr

/-! ## Diagnostic output -/

/-- A structure in diagnostic output: its name and its fields. -/
def structText (name : String) (fields : List (String × String)) : String :=
  let parts := fields.map fun (field, value) => s!"{field}: {value}"
  s!"{name} \x7b " ++ ", ".intercalate parts ++ " \x7d"

/-- An address in diagnostic output. -/
def TileAddress.debugText (a : TileAddress) : String :=
  structText "TileAddress"
    [("layer", Text.quote a.layer), ("gridset", Text.quote a.gridset),
     ("z", toString a.coord.z.toNat), ("x", toString a.coord.x.toNat),
     ("y", toString a.coord.y.toNat), ("format", Text.quote a.format),
     ("parameters_id", Text.quoteOption (a.parameters.map Text.quote))]

/-- A command in diagnostic output. -/
def Command.debugText : Command → String
  | check => "Check"
  | deleteLayer layer => structText "DeleteLayer" [("layer", Text.quote layer)]
  | deleteGridset layer gridset =>
    structText "DeleteGridset" [("layer", Text.quote layer), ("gridset", Text.quote gridset)]
  | getMetadata layer key =>
    structText "GetMetadata" [("layer", Text.quote layer), ("key", Text.quote key)]
  | putMetadata layer key value =>
    structText "PutMetadata"
      [("layer", Text.quote layer), ("key", Text.quote key), ("value", Text.quote value)]
  | getTile address output =>
    structText "GetTile"
      [("address", address.debugText),
       ("output", Text.quoteOption (output.map Text.quotePath))]
  | putTile address input =>
    structText "PutTile" [("address", address.debugText), ("input", Text.quotePath input)]

/-- A command line in diagnostic output. -/
def Invocation.debugText (i : Invocation) : String :=
  structText "Args"
    [("config", Text.quoteOption (i.config.map Text.quotePath)),
     ("log_level", Text.quote i.logLevel), ("command", i.command.debugText)]

end TileCache.Admin
