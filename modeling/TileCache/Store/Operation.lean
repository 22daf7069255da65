import TileCache.Store
set_option autoImplicit false

/-!
# Operations as data

The operations of a store as values, so that runs of them can be written down, carried out and
reasoned about.

## Main definitions

* `Operation` — an operation with its arguments.
* `Reply` — how a call ended, and the tile it was given, as it is afterwards.
* `Operation.perform`, `Operation.performAll` — one operation, and a run of them.
-/

namespace TileCache

/-- An operation of a store, with its arguments. -/
inductive Operation
  | put (tile : Tile)
  | get (tile : Tile)
  | deleteTile (tile : Tile)
  | deleteLayer (layer : String)
  | deleteGridset (layer gridset : String)
  | deleteRange
  | rename
  | clear
  | getMetadata (layer key : String)
  | putMetadata (layer key value : String)
  | checkAccess
  | destroy
  | addListener (listener : Listener)
  | removeListener (listener : Listener)
  deriving DecidableEq, Repr

/-- The value that an operation returns. -/
inductive Answer
  | done
  | truth (value : Bool)
  | text (value : Option String)
  deriving DecidableEq, Repr

/-- How a call ended; and, for the operations that change the tile they are given, that tile. -/
structure Reply where
  completion : Completion Answer
  tile : Option Tile := none
  deriving DecidableEq, Repr

/-- A completion with another value. -/
def Completion.map {α β : Type} (f : α → β) : Completion α → Completion β
  | .returned value => .returned (f value)
  | .failed error => .failed error
  | .panicked message => .panicked message

namespace Operation

/-- Carries out one operation. -/
def perform : Operation → StoreM Reply
  | put tile => return { completion := (← Store.put tile).map fun _ => .done }
  | get tile => do
    let (completion, tile) ← Store.get tile
    return { completion := completion.map .truth, tile }
  | deleteTile tile => do
    let (completion, tile) ← Store.deleteTile tile
    return { completion := completion.map .truth, tile }
  | deleteLayer layer => return { completion := (← Store.deleteLayer layer).map .truth }
  | deleteGridset layer gridset =>
    return { completion := (← Store.deleteGridset layer gridset).map .truth }
  | deleteRange => return { completion := Store.deleteRange.map .truth }
  | rename => return { completion := Store.rename.map .truth }
  | clear => return { completion := Store.clear.map fun _ => .done }
  | getMetadata layer key => return { completion := (← Store.getMetadata layer key).map .text }
  | putMetadata layer key value =>
    return { completion := (← Store.putMetadata layer key value).map fun _ => .done }
  | checkAccess => return { completion := (← Store.checkAccess).map fun _ => .done }
  | destroy => do
    Store.destroy
    return { completion := .returned .done }
  | addListener l => do
    Store.addListener l
    return { completion := .returned .done }
  | removeListener l => return { completion := .returned (.truth (← Store.removeListener l)) }

/-- Carries out a run of operations, one after the other, whatever becomes of each. -/
def performAll (operations : List Operation) : StoreM (List Reply) :=
  operations.mapM perform

end Operation

end TileCache
