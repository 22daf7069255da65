import TileCache.Text.Utf8
set_option autoImplicit false

/-!
# Errors

Everything that can go wrong in the store, as causes. The wording of each cause is in one place;
what a bucket refused stays reachable below the message that names the operation and the key.
A missing object is no error: it is reported by the value of the operation.

## Main definitions

* `BucketError` — why a bucket refused one request.
* `StorageError` — the errors of the store, of its layout, its metadata and its settings.
* `StorageError.message`, `StorageError.chain` — the wording, alone or with its causes.
* `StorageError.isCallerError` — whether the arguments or the settings are to blame.
-/

namespace TileCache

/-- Why a bucket refused a request. -/
inductive BucketError
  /-- The request failed on its way or inside the bucket's service. -/
  | generic (detail : String)
  /-- There is no object at the location. -/
  | notFound (location detail : String)
  /-- The credentials do not allow the request. -/
  | denied (location detail : String)
  deriving DecidableEq, Repr

namespace BucketError

/-- The wording of a refusal. -/
def message : BucketError → String
  | generic detail => s!"Generic S3 error: {detail}"
  | notFound location detail => s!"Object at location {location} not found: {detail}"
  | denied location detail =>
    s!"The operation lacked the necessary privileges to complete for path {location}: {detail}"

/-- What the bucket's service itself said. -/
def detail : BucketError → String
  | generic detail => detail
  | notFound _ detail => detail
  | denied _ detail => detail

/-- Whether the refusal only says that the object is missing. -/
def isNotFound : BucketError → Bool
  | notFound .. => true
  | _ => false

end BucketError

/-- What lies behind a failed request. -/
inductive BackendCause
  /-- The bucket refused the request. -/
  | bucket (error : BucketError)
  /-- A batch was answered for fewer keys than it held. -/
  | shortReply (received submitted : Nat)
  /-- Any other cause, by its text. -/
  | described (text : String)
  deriving DecidableEq, Repr

namespace BackendCause

/-- The wording of a cause. -/
def message : BackendCause → String
  | bucket error => error.message
  | shortReply received submitted => s!"{received} results for {submitted} keys"
  | described text => text

/-- The wording of a cause and of what lies behind it, outermost first. -/
def chain : BackendCause → List String
  | bucket error => [error.message, error.detail]
  | cause => [cause.message]

end BackendCause

/-- The identifiers that an object's key is made of. -/
inductive Identifier
  | layer
  | gridset
  | format
  | parameters
  deriving DecidableEq, Repr

/-- How an identifier is called in messages. -/
def Identifier.label : Identifier → String
  | layer => "layer name"
  | gridset => "gridset id"
  | format => "format"
  | parameters => "parameters id"

/-- What is wrong with the arguments of an operation. -/
inductive ArgumentFault
  /-- A tile to be stored carries no blob. -/
  | blobRequired
  /-- A tile to be stored names no format. -/
  | formatRequired
  /-- An identifier is empty, so that it would vanish from the key. -/
  | empty (what : Identifier)
  /-- Any other fault, by its text. -/
  | described (text : String)
  deriving DecidableEq, Repr

/-- The wording of an argument fault. -/
def ArgumentFault.message : ArgumentFault → String
  | blobRequired => "tile blob is required"
  | formatRequired => "tile format is required"
  | empty what => s!"{what.label} must not be empty"
  | described text => text

/-- What is wrong with a stored metadata object. -/
inductive MetadataFault
  /-- The object is not UTF-8. -/
  | notUtf8 (fault : Utf8.Fault)
  /-- Any other fault, by its text. -/
  | described (text : String)
  deriving DecidableEq, Repr

/-- The wording of a metadata fault. -/
def MetadataFault.message : MetadataFault → String
  | notUtf8 fault => s!"not valid UTF-8: {fault.message}"
  | described text => text

/-- The most keys that one multi-object deletion may hold. -/
def maxBatchSize : Nat := 1000

/-- What is wrong with the settings of a store. -/
inductive ConfigFault
  /-- A variable holds no value of its type. -/
  | badVariable (name reason : String)
  | noBucket
  | noAccessKey
  | noSecretKey
  /-- The batch size is outside `1 … maxBatchSize`. -/
  | batchSize (size : Nat)
  /-- The settings file cannot be read. -/
  | unreadable (path reason : String)
  /-- The settings file holds no settings. -/
  | unparsable (path : String)
  /-- No client for the bucket can be built from the settings. -/
  | noClient (reason : String)
  /-- Any other fault, by its text. -/
  | described (text : String)
  deriving DecidableEq, Repr

/-- The wording of a configuration fault. -/
def ConfigFault.message : ConfigFault → String
  | badVariable name reason => s!"Invalid value for {name}: {reason}"
  | noBucket => "Bucket not provided"
  | noAccessKey => "Access key not provided"
  | noSecretKey => "Secret key not provided"
  | batchSize size => s!"delete_batch_size must be between 1 and {maxBatchSize}, got {size}"
  | unreadable path reason => s!"Failed to read {path}: {reason}"
  | unparsable path => s!"Failed to parse {path}"
  | noClient reason => s!"Failed to create S3 client: {reason}"
  | described text => text

/-- The errors of the store. -/
inductive StorageError
  /-- The arguments of an operation are unusable. -/
  | invalidArgument (fault : ArgumentFault)
  /-- The store does not offer the operation. -/
  | notImplemented (what : String)
  /-- The operation must not be used on this kind of store. -/
  | misuse (reason : String)
  /-- A request to the bucket failed. -/
  | backend (operation subject : String) (cause : BackendCause)
  /-- A stored metadata object cannot be read. -/
  | metadata (fault : MetadataFault)
  /-- The store has been shut down. -/
  | destroyed
  /-- The settings of the store are unusable. -/
  | config (fault : ConfigFault)
  deriving DecidableEq, Repr

namespace StorageError

/-- The wording of an error, without its causes. -/
def message : StorageError → String
  | invalidArgument fault => s!"Invalid argument: {fault.message}"
  | notImplemented what => s!"Operation not implemented: {what}"
  | misuse reason => s!"Misuse: {reason}"
  | backend operation subject _ => s!"Storage error during {operation} of '{subject}'"
  | metadata fault => s!"Invalid layer metadata: {fault.message}"
  | destroyed => "Blob store has been destroyed"
  | config fault => s!"Configuration error: {fault.message}"

/-- The wording of an error and of its causes, outermost first. -/
def chain : StorageError → List String
  | e@(backend _ _ cause) => e.message :: cause.chain
  | e => [e.message]

/-- Whether the caller is to blame, so that trying again is pointless. -/
def isCallerError : StorageError → Bool
  | invalidArgument _ => true
  | notImplemented _ => true
  | misuse _ => true
  | config _ => true
  | _ => false

end StorageError

end TileCache
