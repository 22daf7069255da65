import TileCache.Store
import TileCache.Text.Blank
set_option autoImplicit false

/-!
# Settings of a store

What is needed to reach a bucket and to lay out a store in it. Settings are loaded first and
checked afterwards, so that a file may be incomplete and still be well formed. Credentials never
appear in diagnostic output. Which settings make a client of the bucket is up to the builder of
clients, a parameter here.

## Main definitions

* `ClientBuilder`, `Client` — how clients are built, and a client.
* `Config` — the settings, each with its default.
* `Config.validate` — whether everything needed is there.
* `Config.keyRoot` — the root below which the store keeps its objects.
* `Config.debugText` — the settings in diagnostic output.
* `Config.client`, `Config.store` — the client of the bucket, and the store over it.
-/

namespace TileCache

/-! ## Clients -/

/-- What a client of a bucket is built from. -/
structure ClientSettings where
  bucket : String
  region : String
  accessKey : String
  secretKey : String
  endpoint : Option String
  /-- Whether the client may speak to an address without encryption. -/
  allowHttp : Bool
  /-- How many idle connections are kept for each host. -/
  maxIdle : Option UInt64
  proxy : Option String
  timeout : Option UInt64
  deriving DecidableEq, Repr

/-- How clients are built. This is not up to the store: a builder gives the name of the client, or
the reason why it refuses the settings. -/
structure ClientBuilder where
  build : ClientSettings → Except String String

namespace ClientBuilder

/-- The name of a client that is built is made of the bucket and nothing else. -/
def NamesBucket (builder : ClientBuilder) : Prop :=
  ∀ settings name, builder.build settings = .ok name → name = s!"AmazonS3({settings.bucket})"

/-- The builder that refuses nothing. -/
def lenient : ClientBuilder where
  build settings := .ok s!"AmazonS3({settings.bucket})"

/-- It names its clients after their buckets. -/
theorem namesBucket_lenient : lenient.NamesBucket := by
  intro settings name h
  exact (Except.ok.inj h).symm

end ClientBuilder

/-- A client of a bucket, with the name that its builder gave it. -/
structure Client where
  bucket : String
  name : String
  deriving DecidableEq, Repr

/-- The client in messages. -/
def Client.text (client : Client) : String :=
  s!"{client.bucket} ({client.name})"

/-! ## Settings -/

/-- The settings of a store. -/
structure Config where
  bucket : String := ""
  /-- The root of the store's keys as written, slashes around it included. -/
  root : Option String := none
  /-- The address of the bucket's service, unless it is the provider's own. -/
  endpoint : Option String := none
  region : String := "us-east-1"
  accessKey : String := ""
  secretKey : String := ""
  /-- Whether addresses without encryption are refused. -/
  useHttps : Bool := true
  maxConnections : Option UInt64 := none
  /-- The address of a proxy, which may hold credentials. -/
  proxy : Option String := none
  /-- The time limit of one request, in seconds. -/
  timeout : Option UInt64 := none
  /-- How many keys one batch of a bulk deletion may hold. -/
  batchSize : UInt64 := 1000
  deriving DecidableEq, Repr

namespace Config

/-- Fails unless everything is there that is needed to reach the bucket. -/
def validate (c : Config) : Except StorageError Unit :=
  if Text.isAllBlank c.bucket then .error (.config .noBucket)
  else if c.accessKey = "" then .error (.config .noAccessKey)
  else if c.secretKey = "" then .error (.config .noSecretKey)
  else if c.batchSize = 0 ∨ maxBatchSize < c.batchSize.toNat then
    .error (.config (.batchSize c.batchSize.toNat))
  else .ok ()

/-- A text without the slashes at its start. -/
def dropSlashes (cs : List Char) : List Char :=
  cs.dropWhile (· == '/')

/-- The root of the store's keys, without slashes around it. -/
def keyRoot (c : Config) : String :=
  String.ofList (dropSlashes (dropSlashes (c.root.getD "").toList).reverse).reverse

/-! ## Diagnostic output -/

/-- What stands for a text that is not to be seen. -/
def hiddenMark : String := "<redacted>"

/-- A key in diagnostic output: only whether there is one. -/
def keyText (secret : String) : String :=
  Text.quote (if secret = "" then "<unset>" else hiddenMark)

/-- An optional text in diagnostic output. -/
def optionalText (value : Option String) : String :=
  Text.quoteOption (value.map Text.quote)

/-- An optional number in diagnostic output. -/
def optionalNumber (value : Option UInt64) : String :=
  Text.quoteOption (value.map fun n => toString n.toNat)

/-- A proxy in diagnostic output. Its address may hold credentials, so it is not shown. -/
def proxyText (proxy : Option String) : String :=
  optionalText (proxy.map fun _ => hiddenMark)

/-- The settings in diagnostic output. -/
def debugText (c : Config) : String :=
  s!"S3BlobStoreConfig \x7b bucket: {Text.quote c.bucket}, prefix: {optionalText c.root}, " ++
  s!"endpoint: {optionalText c.endpoint}, region: {Text.quote c.region}, " ++
  s!"access_key_id: {keyText c.accessKey}, " ++
  s!"secret_access_key: {keyText c.secretKey}, use_https: {c.useHttps}, " ++
  s!"max_connections: {optionalNumber c.maxConnections}, " ++
  s!"proxy_url: {proxyText c.proxy}, " ++
  s!"request_timeout_secs: {optionalNumber c.timeout}, delete_batch_size: {c.batchSize.toNat} \x7d"

/-! ## The bucket -/

/-- What the client of the bucket is built from. -/
def clientSettings (c : Config) : ClientSettings where
  bucket := c.bucket
  region := c.region
  accessKey := c.accessKey
  secretKey := c.secretKey
  endpoint := c.endpoint
  allowHttp := !c.useHttps
  maxIdle := c.maxConnections
  proxy := c.proxy
  timeout := c.timeout

/-- The client of the bucket, if the settings are complete and a client can be built from them. -/
def client (builder : ClientBuilder) (c : Config) : Except StorageError Client := do
  c.validate
  match builder.build c.clientSettings with
  | .ok name => return { bucket := c.bucket, name }
  | .error reason => throw (.config (.noClient reason))

/-- The store that the settings describe. -/
def store (builder : ClientBuilder) (c : Config) : Except StorageError Store := do
  let _ ← c.client builder
  return { layout := .ofText c.keyRoot, batchSize := .clamp c.batchSize.toNat }

/-- Settings pass if and only if they name a bucket and both keys and their batch size is
allowed. -/
theorem validate_eq_ok_iff (c : Config) :
    c.validate = .ok () ↔
      Text.isAllBlank c.bucket = false ∧ c.accessKey ≠ "" ∧ c.secretKey ≠ "" ∧
        1 ≤ c.batchSize.toNat ∧ c.batchSize.toNat ≤ maxBatchSize := by
  have h : c.batchSize = 0 ↔ c.batchSize.toNat = 0 := by
    rw [← UInt64.toNat_inj]; rfl
  simp only [validate, h]
  split
  · simp_all
  split
  · simp_all
  split
  · simp_all
  split
  · simp_all
    omega
  · simp_all
    omega

end Config

end TileCache
