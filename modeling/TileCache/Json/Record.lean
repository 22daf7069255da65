import TileCache.Json
set_option autoImplicit false

/-!
# Records as JSON objects

A record is read from an object by the names of its fields. Members with other names are passed
over, but every name must have a text, and no field may be given twice.

## Main definitions

* `Json.Members` — the members of an object.
* `Json.Members.wellNamed` — whether every name has a text.
* `Json.Members.field?` — the value of one field: absent, given, or given twice.
* `Json.word32?`, `Json.word64?` — the machine word that a value stands for.
-/

namespace TileCache.Json

/-- The members of an object as they are written. -/
abbrev Members := List (Option String × Json)

/-- Whether every member's name has a text. -/
def Members.wellNamed (ms : Members) : Bool :=
  ms.all fun m => m.1.isSome

/-- The value of a field, if it is given; nothing at all if it is given twice. -/
def Members.field? (ms : Members) (name : String) : Option (Option Json) :=
  match ms.filter fun m => m.1 == some name with
  | [] => some none
  | [m] => some (some m.2)
  | _ => none

/-- The value of a field that has to be given, once. -/
def Members.required? (ms : Members) (name : String) : Option Json := do
  let value ← ms.field? name
  value

/-- The 32-bit word that a value stands for. -/
def word32? (j : Json) : Option UInt32 :=
  (j.natural? UInt32.size).map UInt32.ofNat

/-- The 64-bit word that a value stands for. -/
def word64? (j : Json) : Option UInt64 :=
  (j.natural? UInt64.size).map UInt64.ofNat

/-- An optional value: `null` stands for none. -/
def nullable? {α : Type} (read : Json → Option α) : Json → Option (Option α)
  | null => some none
  | j => (read j).map some

/-- An optional text as a value. -/
def ofOption {α : Type} (write : α → Json) : Option α → Json
  | none => null
  | some a => write a

end TileCache.Json
