import TileCache.Bucket
import TileCache.Error
set_option autoImplicit false

/-!
# Which requests fail

A bucket is reached by requests, each of which may fail. What fails is not decided here: it is a
plan, a parameter that says for every request what becomes of it, given the requests before. A
request that is refused changes nothing; a batch removes the keys that its plan says.

## Main definitions

* `Request` — a request as it reaches the bucket.
* `Plan` — what becomes of each request.
* `Plan.faultless` — the plan by which every request succeeds.
* `Faults`, `Faults.plan` — plans made of one fault for each kind of request.
-/

namespace TileCache

/-- A request as it reaches the bucket. -/
inductive Request
  | head (key : Key)
  | get (key : Key)
  | put (key : Key) (size : Nat) (contentType : String)
  | delete (key : Key)
  /-- The start of a listing of what is strictly below a key. -/
  | list (base : Key)
  /-- A deletion of many keys at once. -/
  | batch (keys : List Key)
  deriving DecidableEq

/-- What becomes of a fetch. -/
inductive GetFate
  /-- The object is sent, if there is one. -/
  | served
  /-- The request is refused. -/
  | refused (error : BucketError)
  /-- If there is an object, its octets are lost on the way. -/
  | bodyLost (error : BucketError)
  deriving DecidableEq, Repr

/-- What becomes of a batch: the answers for its keys in the order in which they arrive, each a
success or a refusal, and the keys that are removed. -/
structure BatchFate where
  answers : List (Option BucketError)
  removes : Key → Bool

/-- What becomes of each request, given the requests before it. -/
structure Plan where
  head : List Request → Key → Option BucketError
  get : List Request → Key → GetFate
  put : List Request → Key → Option BucketError
  delete : List Request → Key → Option BucketError
  /-- A listing may break off: after so many entries, with an error. -/
  list : List Request → Key → Option (Nat × BucketError)
  batch : List Request → List Key → BatchFate

/-- Every key of the batch is removed and answered with success. -/
def BatchFate.success (keys : List Key) : BatchFate where
  answers := keys.map fun _ => none
  removes key := keys.contains key

/-- The plan by which every request succeeds. -/
def Plan.faultless : Plan where
  head _ _ := none
  get _ _ := .served
  put _ _ := none
  delete _ _ := none
  list _ _ := none
  batch _ keys := .success keys

/-! ## Faults by kind of request -/

/-- The ways in which a bucket refuses. -/
inductive Refusal
  | generic
  | notFound
  | denied
  deriving DecidableEq, Repr

/-- The error of a refused request, given its kind and what it was about. -/
def Refusal.error (r : Refusal) (kind subject : String) : BucketError :=
  match r with
  | generic => .generic s!"{kind} of {subject} failed"
  | notFound => .notFound subject "no such key"
  | denied => .denied subject "403"

/-- How fetches fail. -/
inductive GetFault
  | refused (r : Refusal)
  /-- The octets of the object are lost on the way. -/
  | bodyLost
  deriving DecidableEq, Repr

/-- How batches fail. -/
inductive BatchFault
  /-- The whole request fails with one answer. -/
  | request
  /-- A key that holds one of the texts is refused; if there is a limit, the answers end there and
  the keys behind it are not looked at. -/
  | keys (r : Refusal) (texts : List String) (limit : Option Nat)
  deriving DecidableEq, Repr

/-- At most one fault for each kind of request. -/
structure Faults where
  head : Option Refusal := none
  get : Option GetFault := none
  put : Option Refusal := none
  delete : Option Refusal := none
  /-- After how many entries a listing breaks off, and how. -/
  list : Option (Nat × Refusal) := none
  batch : Option BatchFault := none
  deriving DecidableEq, Repr

namespace Faults

/-- Every request is refused for want of rights. -/
def allDenied : Faults where
  head := some .denied
  get := some (.refused .denied)
  put := some .denied
  delete := some .denied
  list := some (0, .denied)
  batch := some (.keys .denied [""] none)

/-- Whether a text holds another as a part. -/
def holdsText (part : List Char) : List Char → Bool
  | [] => part.isEmpty
  | c :: cs => part.isPrefixOf (c :: cs) || holdsText part cs

/-- What becomes of a batch. -/
def batchFate (fault : Option BatchFault) (keys : List Key) : BatchFate :=
  match fault with
  | none => .success keys
  | some .request =>
    { answers := [some (Refusal.generic.error "batch" s!"{keys.length} keys")]
      removes := fun _ => false }
  | some (.keys r texts limit) =>
    let handled := match limit with
      | none => keys
      | some n => keys.take n
    let fails (key : Key) : Bool := texts.any fun t => holdsText t.toList key.text.toList
    { answers := handled.map fun key =>
        if fails key then some (r.error "batch" key.text) else none
      removes := fun key => handled.contains key && !fails key }

/-- The plan that a set of faults makes. -/
def plan (f : Faults) : Plan where
  head _ key := f.head.map fun r => r.error "head" key.text
  get _ key :=
    match f.get with
    | none => .served
    | some (.refused r) => .refused (r.error "get" key.text)
    | some .bodyLost => .bodyLost (Refusal.generic.error "get" key.text)
  put _ key := f.put.map fun r => r.error "put" key.text
  delete _ key := f.delete.map fun r => r.error "delete" key.text
  list _ base := f.list.map fun (shown, r) => (shown, r.error "list" base.text)
  batch _ keys := batchFate f.batch keys

end Faults

end TileCache
