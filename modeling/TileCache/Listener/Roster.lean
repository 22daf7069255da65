import TileCache.Listener
set_option autoImplicit false

/-!
# Stock listeners

Listeners of a few fixed kinds, kept by name. The first mention of a name decides its kind, whether
the listener is added, removed, or made the target of another one that is called.

## Main definitions

* `ListenerKind` — what a stock listener does when it is called.
* `Roster` — the stock listeners by name.
* `Roster.callbacks` — the behaviour of all of them.
-/

namespace TileCache

/-- What a stock listener does when it is called. -/
inductive ListenerKind
  /-- It takes notice. -/
  | recorder
  /-- It does nothing at all. -/
  | silent
  /-- It writes the event to the log. -/
  | logging
  /-- It takes notice and removes itself. -/
  | once
  /-- It takes notice and adds its target. -/
  | spawn
  /-- It takes notice and removes its target. -/
  | evict
  /-- It takes notice and panics. -/
  | panic
  deriving DecidableEq, Repr

namespace ListenerKind

/-- The kind that a word names; any other word names a plain recorder. -/
def ofWord : String → ListenerKind
  | "silent" => silent
  | "logging" => logging
  | "once" => once
  | "spawn" => spawn
  | "evict" => evict
  | "panic" => panic
  | _ => recorder

/-- Whether listeners of this kind take notice of events themselves. -/
def takesNotice : ListenerKind → Bool
  | silent => false
  | logging => false
  | _ => true

/-- Whether listeners of this kind act on their target. -/
def usesTarget : ListenerKind → Bool
  | spawn => true
  | evict => true
  | _ => false

end ListenerKind

/-- A stock listener. -/
structure StockListener where
  kind : ListenerKind := .recorder
  /-- The name of the listener it acts on. -/
  target : String := ""
  deriving DecidableEq, Repr

/-- The stock listeners by name. -/
structure Roster where
  entries : List (String × StockListener) := []

namespace Roster

/-- The stock listener of a name; one never mentioned is a plain recorder. -/
def get (r : Roster) (name : String) : StockListener :=
  (r.entries.lookup name).getD {}

/-- The roster after a name is mentioned: only the first mention counts. -/
def mention (r : Roster) (name : String) (listener : StockListener) : Roster :=
  match r.entries.lookup name with
  | some _ => r
  | none => ⟨r.entries ++ [(name, listener)]⟩

/-- What a stock listener of a given name does when it is called. -/
def reaction (name : String) (l : StockListener) : Reaction :=
  match l.kind with
  | .once => { edits := [.remove (.named name)] }
  | .spawn => { edits := [.add (.named l.target)] }
  | .evict => { edits := [.remove (.named l.target)] }
  | .panic => { panic := some s!"listener {name} failed" }
  | .recorder => {}
  | .silent => {}
  | .logging => {}

/-- The behaviour of all stock listeners. -/
def callbacks (r : Roster) : Callbacks := fun _ call =>
  match call.listener with
  | .named name => reaction name (r.get name)
  | .console => {}

/-- The roster after some deliveries: a listener that acts on its target mentions it. -/
def hear (r : Roster) (deliveries : List Delivery) : Roster :=
  deliveries.foldl (fun r call =>
    match call.listener with
    | .named name =>
      let l := r.get name
      if l.kind.usesTarget then r.mention l.target {} else r
    | .console => r) r

/-- Whether a delivery is taken notice of by the listener itself. -/
def isNoticed (r : Roster) (call : Delivery) : Bool :=
  match call.listener with
  | .named name => (r.get name).kind.takesNotice
  | .console => false

/-- Whether a delivery goes to the log. -/
def isLogged (r : Roster) (call : Delivery) : Bool :=
  match call.listener with
  | .named name => (r.get name).kind = .logging
  | .console => true

end Roster

end TileCache
