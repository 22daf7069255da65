import TileCache.Key
import TileCache.SortedMap
set_option autoImplicit false

/-!
# Buckets

A bucket holds objects by key and lists them in the order of their keys. Its clock counts the single
writes it has seen; an object carries the time of the write that made it.

## Main definitions

* `StoredObject` — octets with a media type and a time.
* `Bucket` — the objects by key, and the clock.
* `Bucket.put`, `Bucket.erase`, `Bucket.eraseAll` — the ways a bucket changes.
* `Bucket.below` — the objects strictly below a key.
-/

namespace TileCache

/-- An object in a bucket. -/
structure StoredObject where
  data : Octets
  contentType : String
  /-- The time of the write that made it, on the bucket's clock. -/
  modified : Nat
  deriving DecidableEq, Repr

namespace StoredObject

/-- The number of octets. -/
def size (o : StoredObject) : Nat :=
  o.data.length

end StoredObject

/-- A bucket: objects by key, and a clock. -/
structure Bucket where
  objects : SortedMap Key StoredObject := .empty
  /-- How many single writes there have been. -/
  clock : Nat := 0

namespace Bucket

instance : Inhabited Bucket := ⟨{}⟩

/-- The object with a key. -/
def find? (b : Bucket) (key : Key) : Option StoredObject :=
  b.objects.find? key

/-- The bucket after an object is written, which takes one tick of the clock. -/
def put (b : Bucket) (key : Key) (data : Octets) (contentType : String) : Bucket where
  objects := b.objects.insert key ⟨data, contentType, b.clock + 1⟩
  clock := b.clock + 1

/-- The bucket without the object of a key. -/
def erase (b : Bucket) (key : Key) : Bucket :=
  { b with objects := b.objects.erase key }

/-- The bucket without the objects whose key passes a test. -/
def eraseAll (b : Bucket) (gone : Key → Bool) : Bucket :=
  { b with objects := b.objects.filter fun key => !gone key }

/-- The objects strictly below a key, in the order of their keys. -/
def below (b : Bucket) (base : Key) : List (Key × StoredObject) :=
  b.objects.entries.filter fun e => e.1.isBelow base

end Bucket

end TileCache
