import TileCache.BulkDelete
import TileCache.Listener
import TileCache.Properties
import TileCache.Text.Quoted
set_option autoImplicit false

/-!
# The tile store

A store keeps the tiles and the metadata of layers as objects below one root of a bucket and
announces what it changed. Every operation has two halves: requests to the bucket, which may fail,
and then, if they all went well and something changed, one event for the listeners, one of which may
panic. So no listener can leave the bucket half changed.

## Main definitions

* `Store`, `World` — the store, and the store with its bucket and the deliveries so far.
* `StoreM`, `Completion` — operations under a plan and callbacks, and how a call ends.
* `Store.put`, `Store.get`, `Store.deleteTile` — one tile.
* `Store.deleteLayer`, `Store.deleteGridset` — everything below a key.
* `Store.getMetadata`, `Store.putMetadata` — the metadata of a layer.
* `Store.checkAccess`, `Store.destroy`, `Store.removeListener`, `Store.addListener`.
-/

namespace TileCache

/-- A store over a bucket. -/
structure Store where
  layout : Layout
  /-- How many keys one batch of a bulk deletion may hold. -/
  batchSize : BatchSize := .largest
  listeners : Registry := {}
  /-- Whether the store still holds its bucket; if not, no operation reaches it. -/
  live : Bool := true
  /-- Whether the store has been shut down. -/
  destroyed : Bool := false
  /-- The bucket is let go when the store is shut down, and only then. -/
  inStep : destroyed = !live := by rfl
  deriving DecidableEq

/-- The flag of a store follows from the rest of it. -/
theorem Store.eq_of_live_eq {s s' : Store} (hlayout : s.layout = s'.layout)
    (hbatchSize : s.batchSize = s'.batchSize) (hlisteners : s.listeners = s'.listeners)
    (hlive : s.live = s'.live) : s = s' := by
  obtain ⟨layout, batchSize, listeners, live, destroyed, hstep⟩ := s
  obtain ⟨layout', batchSize', listeners', live', destroyed', hstep'⟩ := s'
  obtain rfl : destroyed = !live := hstep
  obtain rfl : destroyed' = !live' := hstep'
  cases hlayout
  cases hbatchSize
  cases hlisteners
  cases hlive
  rfl

/-- The store below a root given as a text. -/
def Store.ofRoot (root : String) : Store :=
  { layout := .ofText root }

/-- The store in diagnostic output. -/
def Store.debugText (s : Store) : String :=
  s!"S3BlobStore \x7b prefix: {Text.quote s.layout.root.text}, " ++
    s!"listeners: {s.listeners.debugText}, delete_batch_size: {s.batchSize.val}, .. \x7d"

/-- A store, its bucket, and what its listeners were told. -/
structure World where
  store : Store
  session : Session := {}
  deliveries : List Delivery := []

/-- What an operation depends on besides the world: which requests fail and what listeners do. -/
structure Context where
  plan : Plan := .faultless
  callbacks : Callbacks := .passive

/-- Operations on a store. -/
abbrev StoreM := ReaderT Context (StateM World)

/-- The result of an operation, and the world after it. -/
def StoreM.runIn {α : Type} (m : StoreM α) (c : Context) (w : World) : α × World :=
  (m.run c).run w

/-- How a call ends. -/
inductive Completion (α : Type)
  | returned (value : α)
  | failed (error : StorageError)
  /-- A listener panicked, after the bucket was changed. -/
  | panicked (message : String)
  deriving DecidableEq, Repr

namespace Store

/-! ## The two halves of an operation -/

/-- Makes requests on behalf of the store. -/
def request {α : Type} (m : Store → RequestM α) : StoreM (Except StorageError α) := do
  let w ← get
  let (result, session) := (m w.store).runUnder (← read).plan w.session
  set { w with session }
  return result

/-- Tells the listeners of an event, after which the call returns `value` unless one panics. -/
def announce {α : Type} (event : Event) (value : α) : StoreM (Completion α) := do
  let w ← get
  let d := w.store.listeners.dispatch (← read).callbacks w.deliveries event
  set { w with store := { w.store with listeners := d.registry }, deliveries := d.deliveries }
  match d.panic with
  | some message => return .panicked message
  | none => return .returned value

/-- Fails once the store holds no bucket. -/
def requireLive (s : Store) : RequestM Unit :=
  if s.live then return () else throw .destroyed

/-! ## One tile -/

/-- Writes a tile; the event says whether there was an object before. The object is probed only if
somebody listens. -/
def writeTile (tile : Tile) (s : Store) : RequestM (Option Event) := do
  let some blob := tile.blob | throw (.invalidArgument .blobRequired)
  if tile.format = "" then throw (.invalidArgument .formatRequired)
  let key ← MonadExcept.ofExcept (s.layout.tile tile)
  s.requireLive
  if s.listeners.isEmpty then
    writeBlob key blob
    return none
  else
    let previous ← Backend.head key
    writeBlob key blob
    match previous with
    | some info => return some (.tileUpdated tile info.size)
    | none => return some (.tileStored tile)
where
  /-- Writes the object and counts it. -/
  writeBlob (key : Key) (blob : Octets) : RequestM Unit := do
    Backend.put key blob tile.format
    Backend.count fun c => { c with puts := c.puts + 1, putBytes := c.putBytes + blob.length }

/-- Stores a tile, which must carry a blob and name a format. -/
def put (tile : Tile) : StoreM (Completion Unit) := do
  match ← request (writeTile tile) with
  | .error error => return .failed error
  | .ok none => return .returned ()
  | .ok (some event) => announce event ()

/-- Reads the object of a tile. -/
def readTile (tile : Tile) (s : Store) : RequestM (Option StoredObject) := do
  let key ← MonadExcept.ofExcept (s.layout.tile tile)
  s.requireLive
  let object ← Backend.get key
  match object with
  | none => Backend.count fun c => { c with getMisses := c.getMisses + 1 }
  | some _ => Backend.count fun c => { c with getHits := c.getHits + 1 }
  return object

/-- The tile with the octets of a stored object. -/
def fill (tile : Tile) (object : StoredObject) : Tile :=
  { tile.withBlob object.data with created := some object.modified }

/-- Fetches a tile: whether it is stored, and the tile with blob, size and time filled in if so. -/
def get (tile : Tile) : StoreM (Completion Bool × Tile) := do
  match ← request (readTile tile) with
  | .error error => return (.failed error, tile)
  | .ok none => return (.returned false, tile)
  | .ok (some object) => return (.returned true, fill tile object)

/-- Removes the object of a tile, and returns its size if there was one. -/
def eraseTile (tile : Tile) (s : Store) : RequestM (Option Nat) := do
  let key ← MonadExcept.ofExcept (s.layout.tile tile)
  s.requireLive
  match ← Backend.head key with
  | none => return none
  | some info =>
    Backend.delete key
    Backend.count fun c => { c with deletes := c.deletes + 1 }
    return some info.size

/-- Removes a tile: whether it was stored, and the tile with the size that was freed if so. -/
def deleteTile (tile : Tile) : StoreM (Completion Bool × Tile) := do
  match ← request (eraseTile tile) with
  | .error error => return (.failed error, tile)
  | .ok none => return (.returned false, tile)
  | .ok (some size) =>
    let tile := { tile with blobSize := size }
    return (← announce (.tileDeleted tile) true, tile)

/-! ## Everything below a key -/

/-- Removes the tiles of a layer and then its metadata, and returns whether there was anything. -/
def eraseLayer (layer : String) (s : Store) : RequestM Bool := do
  let base ← MonadExcept.ofExcept (s.layout.layer layer)
  let metadata ← MonadExcept.ofExcept (s.layout.metadata layer)
  s.requireLive
  let submitted ← BulkDelete.run base s.batchSize
  let existed ←
    if 0 < submitted then pure true
    else do
      let info ← Backend.head metadata
      pure info.isSome
  if existed then Backend.delete metadata
  return existed

/-- Removes every tile and the metadata of a layer. -/
def deleteLayer (layer : String) : StoreM (Completion Bool) := do
  match ← request (eraseLayer layer) with
  | .error error => return .failed error
  | .ok false => return .returned false
  | .ok true => announce (.layerDeleted layer) true

/-- Removes the tiles of a layer in one gridset, and returns whether there were any. -/
def eraseGridset (layer gridset : String) (s : Store) : RequestM Bool := do
  let base ← MonadExcept.ofExcept (s.layout.gridset layer gridset)
  s.requireLive
  let submitted ← BulkDelete.run base s.batchSize
  return 0 < submitted

/-- Removes every tile of a layer in one gridset. -/
def deleteGridset (layer gridset : String) : StoreM (Completion Bool) := do
  match ← request (eraseGridset layer gridset) with
  | .error error => return .failed error
  | .ok false => return .returned false
  | .ok true => announce (.gridsetDeleted layer gridset) true

/-! ## Layer metadata -/

/-- The metadata of a layer, empty if there is none. -/
def loadProperties (layer : String) (s : Store) : RequestM Properties := do
  let key ← MonadExcept.ofExcept (s.layout.metadata layer)
  match ← Backend.get key with
  | some object => MonadExcept.ofExcept (Properties.decode object.data)
  | none => return .empty

/-- Reads one metadata value. -/
def readMetadata (layer key : String) (s : Store) : RequestM (Option String) := do
  s.requireLive
  let properties ← s.loadProperties layer
  return properties.find? key

/-- Writes one metadata value, the others staying as they are. -/
def writeMetadata (layer key value : String) (s : Store) : RequestM Unit := do
  s.requireLive
  let properties ← s.loadProperties layer
  let place ← MonadExcept.ofExcept (s.layout.metadata layer)
  Backend.put place (Properties.encode (properties.insert key value)) Properties.contentType

/-- How a call ends that announces nothing. -/
def settled {α : Type} : Except StorageError α → Completion α
  | .ok value => .returned value
  | .error error => .failed error

/-- One metadata value of a layer. -/
def getMetadata (layer key : String) : StoreM (Completion (Option String)) := do
  return settled (← request (readMetadata layer key))

/-- Sets one metadata value of a layer. -/
def putMetadata (layer key value : String) : StoreM (Completion Unit) := do
  return settled (← request (writeMetadata layer key value))

/-! ## Operations that this kind of store refuses -/

/-- Deleting a range of tiles is not offered. -/
def deleteRange : Completion Bool :=
  .failed (.notImplemented "delete by tile range")

/-- Renaming a layer is not offered. -/
def rename : Completion Bool :=
  .failed (.notImplemented "rename layer")

/-- Clearing the whole store is refused, for others may share the bucket. -/
def clear : Completion Unit :=
  .failed (.misuse "clear() must not be called on a bucket-backed tile store")

/-! ## The store itself -/

/-- Lists at most one object below the root. -/
def probeRoot (s : Store) : RequestM Unit := do
  s.requireLive
  let listing ← Backend.list s.layout.root
  let _ ← MonadExcept.ofExcept listing.first?

/-- Checks that the bucket can be reached. -/
def checkAccess : StoreM (Completion Unit) := do
  return settled (← request probeRoot)

/-- Shuts the store down: its listeners are dropped, its bucket is let go, and every later operation
fails. -/
def destroy : StoreM Unit :=
  modify fun w =>
    { w with store :=
      { w.store with
        listeners := w.store.listeners.clear, live := false, destroyed := true, inStep := rfl } }

/-- Removes the oldest registration of a listener, and returns whether there was one. -/
def removeListener (l : Listener) : StoreM Bool := do
  let w ← MonadState.get
  MonadState.set { w with store := { w.store with listeners := w.store.listeners.remove l } }
  return w.store.listeners.contains l

/-- Registers a listener, unless the store has been shut down. A shutdown may come in between, and
so the flag is looked at a second time. -/
def addListener (l : Listener) : StoreM Unit := do
  let w ← MonadState.get
  unless w.store.destroyed do
    MonadState.set { w with store := { w.store with listeners := w.store.listeners.add l } }
    let w ← MonadState.get
    if w.store.destroyed then
      let _ ← removeListener l

end Store

end TileCache
