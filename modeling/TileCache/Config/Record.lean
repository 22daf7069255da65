import TileCache.Config
import TileCache.Json.Record
set_option autoImplicit false

/-!
# Settings as records

A file of settings is a record whose fields have public names. Fields may be left out; then they
have their defaults. Fields with other names are passed over, and no field may be given twice.

The rules are the same for every notation in which a record may be written, so the reader is given
the notation as a parameter: how a value stands for a text, a truth value or a number.

## Main definitions

* `Config.fieldNames` — the public names, in order.
* `Config.Reading` — how values of a notation are understood.
* `Config.ofFields?` — the settings of a record in some notation.
* `Config.ofJson?`, `Config.toJson` — the notation of JSON.
-/

namespace TileCache.Config

/-- The public names of the settings, in order. -/
def fieldNames : List String :=
  ["bucket", "prefix", "endpoint", "region", "access_key_id", "secret_access_key", "use_https",
   "max_connections", "proxy_url", "request_timeout_secs", "delete_batch_size"]

/-- How values of type `V` are understood. -/
structure Reading (V : Type) where
  text? : V → Option String
  truth? : V → Option Bool
  number? : V → Option UInt64
  /-- Whether a value stands for the absence of one, where that is allowed. -/
  isNull : V → Bool

namespace Reading

variable {V α : Type} (n : Reading V)

/-- The value of a field, or its default. -/
def given (read : V → Option α) (default : α) : Option V → Option α
  | none => some default
  | some v => read v

/-- The value of a field that may be null. -/
def nullable (read : V → Option α) : Option V → Option (Option α)
  | none => some none
  | some v => if n.isNull v then some none else (read v).map some

end Reading

/-- The settings of a record. A field is absent, given, or, by `none`, given twice. -/
def ofFields? {V : Type} (n : Reading V) (field? : String → Option (Option V)) :
    Option Config := do
  let base : Config := {}
  return {
    bucket := ← Reading.given n.text? base.bucket (← field? "bucket")
    root := ← n.nullable n.text? (← field? "prefix")
    endpoint := ← n.nullable n.text? (← field? "endpoint")
    region := ← Reading.given n.text? base.region (← field? "region")
    accessKey := ← Reading.given n.text? base.accessKey (← field? "access_key_id")
    secretKey := ← Reading.given n.text? base.secretKey (← field? "secret_access_key")
    useHttps := ← Reading.given n.truth? base.useHttps (← field? "use_https")
    maxConnections := ← n.nullable n.number? (← field? "max_connections")
    proxy := ← n.nullable n.text? (← field? "proxy_url")
    timeout := ← n.nullable n.number? (← field? "request_timeout_secs")
    batchSize := ← Reading.given n.number? base.batchSize (← field? "delete_batch_size") }

/-! ## JSON -/

/-- The notation of JSON. -/
def jsonReading : Reading Json where
  text? := Json.text?
  truth? := Json.truth?
  number? := Json.word64?
  isNull
    | .null => true
    | _ => false

/-- The settings of an object, or of an array of the first so many fields. -/
def ofJson? : Json → Option Config
  | .object ms => do
    guard (Json.Members.wellNamed ms)
    ofFields? jsonReading (Json.Members.field? ms)
  | .array items => do
    guard (items.length ≤ fieldNames.length)
    ofFields? jsonReading fun name => some ((fieldNames.zip items).lookup name)
  | _ => none

/-- A number as a value. -/
def numberJson (n : UInt64) : Json :=
  .ofNat n.toNat

/-- The settings as an object with every field. -/
def toJson (c : Config) : Json :=
  .ofMembers
    [("bucket", .ofText c.bucket), ("prefix", .ofOption .ofText c.root),
     ("endpoint", .ofOption .ofText c.endpoint), ("region", .ofText c.region),
     ("access_key_id", .ofText c.accessKey), ("secret_access_key", .ofText c.secretKey),
     ("use_https", .bool c.useHttps), ("max_connections", .ofOption numberJson c.maxConnections),
     ("proxy_url", .ofOption .ofText c.proxy),
     ("request_timeout_secs", .ofOption numberJson c.timeout),
     ("delete_batch_size", numberJson c.batchSize)]

end TileCache.Config
