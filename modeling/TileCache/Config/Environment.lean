import TileCache.Config
import TileCache.Environment
import TileCache.Text.Numeral
set_option autoImplicit false

/-!
# Settings from the environment

Each setting has a variable. Texts are taken as they are; numbers and truth values may have blanks
around them. The first variable that holds no value of its type decides the error, in the order of
the settings.

## Main definitions

* `Config.variableNames` — the variables, in the order of the settings.
* `Config.truthVariable?`, `Config.numberVariable?` — a variable with a value of its type.
* `Config.ofEnvironment` — the defaults with the variables laid over them.
-/

namespace TileCache.Config

/-- The variables, in the order of the settings. -/
def variableNames : List String :=
  ["TILE_STORE_BUCKET", "TILE_STORE_PREFIX", "TILE_STORE_ENDPOINT", "TILE_STORE_REGION",
   "TILE_STORE_ACCESS_KEY_ID", "TILE_STORE_SECRET_ACCESS_KEY", "TILE_STORE_USE_HTTPS",
   "TILE_STORE_MAX_CONNECTIONS", "TILE_STORE_PROXY_URL", "TILE_STORE_REQUEST_TIMEOUT_SECS",
   "TILE_STORE_DELETE_BATCH_SIZE"]

/-- The error for a variable without a value of its type. -/
def badVariable (name reason : String) : StorageError :=
  .config (.badVariable name reason)

/-- The truth value of a variable, if it is set. -/
def truthVariable? (env : Environment) (name : String) : Except StorageError (Option Bool) :=
  match env.text? name with
  | none => .ok none
  | some text =>
    match Text.readTruth (Text.trim text.toList) with
    | some b => .ok (some b)
    | none => .error (badVariable name Text.truthFault)

/-- The number of a variable, if it is set. -/
def numberVariable? (env : Environment) (name : String) : Except StorageError (Option UInt64) :=
  match env.text? name with
  | none => .ok none
  | some text =>
    match Text.readNatural UInt64.size (Text.trim text.toList) with
    | .ok n => .ok (some (UInt64.ofNat n))
    | .error fault => .error (badVariable name fault.message)

/-- The settings of an environment. -/
def ofEnvironment (env : Environment) : Except StorageError Config := do
  let base : Config := {}
  let useHttps ← truthVariable? env "TILE_STORE_USE_HTTPS"
  let maxConnections ← numberVariable? env "TILE_STORE_MAX_CONNECTIONS"
  let timeout ← numberVariable? env "TILE_STORE_REQUEST_TIMEOUT_SECS"
  let batchSize ← numberVariable? env "TILE_STORE_DELETE_BATCH_SIZE"
  return {
    bucket := (env.text? "TILE_STORE_BUCKET").getD base.bucket
    root := env.text? "TILE_STORE_PREFIX"
    endpoint := env.text? "TILE_STORE_ENDPOINT"
    region := (env.text? "TILE_STORE_REGION").getD base.region
    accessKey := (env.text? "TILE_STORE_ACCESS_KEY_ID").getD base.accessKey
    secretKey := (env.text? "TILE_STORE_SECRET_ACCESS_KEY").getD base.secretKey
    useHttps := useHttps.getD base.useHttps
    maxConnections
    proxy := env.text? "TILE_STORE_PROXY_URL"
    timeout
    batchSize := batchSize.getD base.batchSize }

end TileCache.Config
