import TileCache.Text.Utf8
set_option autoImplicit false

/-!
# Environment variables

An environment gives octets to some names. Most variables are read as text, and one whose octets
are not UTF-8 then counts as unset.

## Main definitions

* `Environment` — what each variable holds, if it is set.
* `Environment.text?` — the text of a variable.
* `Environment.assign`, `Environment.supply` — the environment with a variable set, or set unless it
  already has a text.
-/

namespace TileCache

/-- What each variable holds, if it is set. -/
abbrev Environment := String → Option Octets

namespace Environment

/-- The environment without variables. -/
def empty : Environment := fun _ => none

/-- The environment in which one variable holds the given octets. -/
def assign (env : Environment) (name : String) (data : Octets) : Environment :=
  fun n => if n = name then some data else env n

/-- The environment of a list of variables, of which later ones win. -/
def ofList (bindings : List (String × Octets)) : Environment :=
  bindings.foldl (fun env v => env.assign v.1 v.2) empty

/-- The text of a variable. -/
def text? (env : Environment) (name : String) : Option String := do
  Utf8.decode? (← env name)

/-- The environment in which a variable has a text: its own if it has one, else the given one. -/
def supply (env : Environment) (name value : String) : Environment :=
  match env.text? name with
  | some _ => env
  | none => env.assign name (Utf8.encode value)

/-- The text of a variable that has to hold something. -/
def required? (env : Environment) (name : String) : Option String :=
  (env.text? name).filter fun value => value != ""

/-- An assignment leaves the other variables alone. -/
theorem assign_of_ne (env : Environment) {name other : String} (data : Octets)
    (h : other ≠ name) : env.assign name data other = env other := by
  simp [assign, h]

end Environment

end TileCache
