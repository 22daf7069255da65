import TileCache.Tile
set_option autoImplicit false

/-!
# Listeners

A store tells its listeners what changed, one after the other in the order of registration. What a
listener does when it is called is a parameter of the theory: it may depend on everything that was
delivered before, it may change the registry it is called from, and it may panic.

A dispatch calls the listeners that were registered when it began, each as often as it was
registered, and stops after the first panic. Changes to the registry take effect at once but only
the next dispatch sees them.

## Main definitions

* `Event` — what a store announces.
* `Registry` — the registrations of a store, oldest first.
* `Reaction`, `Callbacks` — what listeners do when they are called.
* `Registry.dispatch` — one event, delivered to all.
-/

namespace TileCache

/-- What a store announces. -/
inductive Event
  /-- A tile was written where there was no object. -/
  | tileStored (tile : Tile)
  /-- A tile replaced an object of `oldSize` octets. -/
  | tileUpdated (tile : Tile) (oldSize : Nat)
  /-- A tile was removed; its `blobSize` is the size that was freed. -/
  | tileDeleted (tile : Tile)
  /-- A layer was removed. -/
  | layerDeleted (layer : String)
  /-- The tiles of a layer in one gridset were removed. -/
  | gridsetDeleted (layer gridset : String)
  deriving DecidableEq, Repr

/-- A listener, known by its identity alone. -/
inductive Listener
  /-- A listener with a name of its own. -/
  | named (name : String)
  /-- The listener of the admin command line, which writes events to the log. -/
  | console
  deriving DecidableEq, Repr

/-- One call of one listener. -/
structure Delivery where
  listener : Listener
  event : Event
  deriving DecidableEq, Repr

/-- A change to the registrations. -/
inductive RegistryEdit
  | add (listener : Listener)
  | remove (listener : Listener)
  deriving DecidableEq, Repr

/-- What a listener does when it is called: it changes the registry, and then it may panic. -/
structure Reaction where
  edits : List RegistryEdit := []
  panic : Option String := none
  deriving DecidableEq, Repr

/-- The behaviour of all listeners, given what was delivered before. -/
abbrev Callbacks := List Delivery → Delivery → Reaction

/-- Listeners that only listen. -/
def Callbacks.passive : Callbacks := fun _ _ => {}

/-- The registrations of a store, oldest first. -/
structure Registry where
  listeners : List Listener := []
  deriving DecidableEq, Repr

namespace Registry

/-- How many registrations there are. -/
def size (r : Registry) : Nat :=
  r.listeners.length

/-- Whether there are no registrations. -/
def isEmpty (r : Registry) : Bool :=
  r.listeners.isEmpty

/-- The registry with one registration more, as the newest. -/
def add (r : Registry) (l : Listener) : Registry :=
  ⟨r.listeners ++ [l]⟩

/-- The registry without the oldest registration of a listener. -/
def remove (r : Registry) (l : Listener) : Registry :=
  ⟨r.listeners.erase l⟩

/-- The registry without its registrations. -/
def clear (_ : Registry) : Registry :=
  {}

/-- Whether a listener is registered. -/
def contains (r : Registry) (l : Listener) : Bool :=
  r.listeners.contains l

/-- The registry after one change. -/
def edit (r : Registry) : RegistryEdit → Registry
  | .add l => r.add l
  | .remove l => r.remove l

/-- The registry after several changes, in their order. -/
def editAll (r : Registry) (edits : List RegistryEdit) : Registry :=
  edits.foldl edit r

/-- The state of a dispatch: the registry, all deliveries so far, and the panic that ended it. -/
structure Dispatched where
  registry : Registry
  deliveries : List Delivery
  panic : Option String
  deriving DecidableEq, Repr

/-- An event delivered to a list of listeners, one after the other, up to the first panic. -/
def deliver (callbacks : Callbacks) (event : Event) (registry : Registry)
    (deliveries : List Delivery) : List Listener → Dispatched
  | [] => ⟨registry, deliveries, none⟩
  | l :: rest =>
    let call : Delivery := ⟨l, event⟩
    let reaction := callbacks deliveries call
    let registry := registry.editAll reaction.edits
    let deliveries := deliveries ++ [call]
    match reaction.panic with
    | some message => ⟨registry, deliveries, some message⟩
    | none => deliver callbacks event registry deliveries rest

/-- An event delivered to every registration there is now. -/
def dispatch (r : Registry) (callbacks : Callbacks) (deliveries : List Delivery) (event : Event) :
    Dispatched :=
  deliver callbacks event r deliveries r.listeners

/-- The registry in diagnostic output. -/
def debugText (r : Registry) : String :=
  s!"ListenerList \x7b len: {r.size} \x7d"

end Registry

/-- An entry of the log: a message with named values, all as text. -/
structure LogEntry where
  message : String
  fields : List (String × String)
  deriving DecidableEq, Repr

/-- The log entry that reports an event. -/
def Event.logEntry : Event → LogEntry
  | tileStored tile =>
    ⟨"Tile stored", [("tile", tile.text), ("size", toString tile.blobSize)]⟩
  | tileUpdated tile oldSize =>
    ⟨"Tile updated", [("tile", tile.text), ("size", toString tile.blobSize),
      ("old_size", toString oldSize)]⟩
  | tileDeleted tile =>
    ⟨"Tile deleted", [("tile", tile.text), ("size", toString tile.blobSize)]⟩
  | layerDeleted layer => ⟨"Layer deleted", [("layer", layer)]⟩
  | gridsetDeleted layer gridset =>
    ⟨"Gridset deleted", [("layer", layer), ("gridset", gridset)]⟩

end TileCache
