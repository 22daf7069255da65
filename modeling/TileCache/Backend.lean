import TileCache.Bucket.Plan
set_option autoImplicit false

/-!
# Requests to a bucket

The store talks to its bucket through these operations. Each makes one request, which is recorded
whether it succeeds or not, and turns what comes back into a value or a storage error. That an
object is missing is never an error of a fetch, a probe or a deletion.

A batch deletion is quiet: missing keys count as deleted, and single failures are only counted. It
fails if no key could be deleted, or if answers are missing, for then a whole request has failed.

## Main definitions

* `Session` — what requests see and change: the bucket, the trace of requests, the counters.
* `RequestM` — computations that make requests under a plan.
* `Backend.get`, `Backend.head`, `Backend.put`, `Backend.delete`, `Backend.list` — one request each.
* `Backend.deleteBatch`, `Backend.settle` — a batch deletion, and what its answers amount to.
-/

namespace TileCache

/-- How often things happened. -/
structure Counters where
  puts : Nat := 0
  putBytes : Nat := 0
  getHits : Nat := 0
  getMisses : Nat := 0
  deletes : Nat := 0
  bulkDeleted : Nat := 0
  batchFailures : Nat := 0
  deriving DecidableEq, Repr

/-- The counters by their public names. -/
def Counters.named (c : Counters) : List (String × Nat) :=
  [("tile_store_puts_total", c.puts),
   ("tile_store_put_bytes_total", c.putBytes),
   ("tile_store_get_hits_total", c.getHits),
   ("tile_store_get_misses_total", c.getMisses),
   ("tile_store_deletes_total", c.deletes),
   ("tile_store_bulk_deleted_objects_total", c.bulkDeleted),
   ("tile_store_batch_delete_failures_total", c.batchFailures)]

/-- What requests see and change. -/
structure Session where
  bucket : Bucket := {}
  /-- The requests made so far, in order. -/
  trace : List Request := []
  counters : Counters := {}

/-- Computations that make requests under a plan. What they changed stays changed when they fail. -/
abbrev RequestM := ReaderT Plan (ExceptT StorageError (StateM Session))

/-- The outcome of a computation under a plan, and the session after it. -/
def RequestM.runUnder {α : Type} (m : RequestM α) (plan : Plan) (s : Session) :
    Except StorageError α × Session :=
  (m.run plan).run.run s

/-- Size and time of an object. -/
structure ObjectInfo where
  size : Nat
  modified : Nat
  deriving DecidableEq, Repr

/-- The size and the time of an object. -/
def StoredObject.info (o : StoredObject) : ObjectInfo :=
  ⟨o.size, o.modified⟩

/-- One entry of a listing. -/
structure Entry where
  key : Key
  size : Nat
  deriving DecidableEq

/-- What a listing yields: entries, and then perhaps an error. -/
structure Listing where
  entries : List Entry
  failure : Option StorageError

namespace Listing

/-- The first thing that a listing yields: an entry, its error, or nothing. -/
def first? (l : Listing) : Except StorageError (Option Entry) :=
  match l.entries, l.failure with
  | e :: _, _ => .ok (some e)
  | [], some error => .error error
  | [], none => .ok none

end Listing

namespace Backend

/-- Records a request and returns those before it. -/
def send (r : Request) : RequestM (List Request) := do
  let s ← get
  set { s with trace := s.trace ++ [r] }
  return s.trace

/-- Changes the counters. -/
def count (f : Counters → Counters) : RequestM Unit :=
  modify fun s => { s with counters := f s.counters }

/-- Changes the bucket. -/
def change (f : Bucket → Bucket) : RequestM Unit :=
  modify fun s => { s with bucket := f s.bucket }

/-- The storage error of a refused request. -/
def refusal (operation subject : String) (error : BucketError) : StorageError :=
  .backend operation subject (.bucket error)

/-- The size and the time of an object, or nothing if there is none. -/
def head (key : Key) : RequestM (Option ObjectInfo) := do
  let past ← send (.head key)
  match (← read).head past key with
  | some error => if error.isNotFound then return none else throw (refusal "head" key.text error)
  | none => return ((← get).bucket.find? key).map StoredObject.info

/-- The object with a key, or nothing if there is none. -/
def get (key : Key) : RequestM (Option StoredObject) := do
  let past ← send (.get key)
  match (← read).get past key with
  | .refused error => if error.isNotFound then return none else throw (refusal "get" key.text error)
  | .served => return (← MonadState.get).bucket.find? key
  | .bodyLost error =>
    match (← MonadState.get).bucket.find? key with
    | none => return none
    | some _ => throw (refusal "get" key.text error)

/-- Writes an object. -/
def put (key : Key) (data : Octets) (contentType : String) : RequestM Unit := do
  let past ← send (.put key data.length contentType)
  match (← read).put past key with
  | some error => throw (refusal "put" key.text error)
  | none => change fun b => b.put key data contentType

/-- Removes an object; that there is none is no error. -/
def delete (key : Key) : RequestM Unit := do
  let past ← send (.delete key)
  match (← read).delete past key with
  | some error => if error.isNotFound then return () else throw (refusal "delete" key.text error)
  | none => change fun b => b.erase key

/-- The objects strictly below a key, as they are now, in the order of their keys. -/
def list (base : Key) : RequestM Listing := do
  let past ← send (.list base)
  let entries := ((← MonadState.get).bucket.below base).map fun (key, o) => ⟨key, o.size⟩
  match (← read).list past base with
  | none => return ⟨entries, none⟩
  | some (shown, error) => return ⟨entries.take shown, some (refusal "list" base.text error)⟩

/-! ## Batch deletion -/

/-- What the answers to a batch amount to: the failures that count, and the error of the whole. -/
structure Settlement where
  failures : Nat
  error : Option StorageError
  deriving DecidableEq

/-- The refusals among the answers to a batch. A missing key counts as deleted. -/
def refusals (answers : List (Option BucketError)) : List BucketError :=
  answers.filterMap fun answer => answer.filter fun error => !error.isNotFound

/-- What the answers to a batch of `submitted` keys amount to. -/
def settle (submitted : Nat) (answers : List (Option BucketError)) : Settlement :=
  let failed := refusals answers
  let whole (cause : BackendCause) : StorageError :=
    .backend "delete_batch" s!"{submitted} keys" cause
  { failures := failed.length
    error :=
      if answers.length < submitted then
        match failed with
        | first :: _ => some (whole (.bucket first))
        | [] => some (whole (.shortReply answers.length submitted))
      else match failed with
        | first :: _ => if failed.length = submitted then some (whole (.bucket first)) else none
        | [] => none }

/-- Deletes many keys in one request. Without keys there is no request. -/
def deleteBatch (keys : List Key) : RequestM Unit := do
  if keys.isEmpty then return ()
  let past ← send (.batch keys)
  let fate := (← read).batch past keys
  change fun b => b.eraseAll fun key => keys.contains key && fate.removes key
  let outcome := settle keys.length fate.answers
  count fun c => { c with batchFailures := c.batchFailures + outcome.failures }
  match outcome.error with
  | some error => throw error
  | none => return ()

end Backend

end TileCache
