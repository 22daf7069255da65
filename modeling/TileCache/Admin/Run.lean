import TileCache.Admin.Command
import TileCache.Directory
import TileCache.Store
set_option autoImplicit false

/-!
# Carrying out commands

A command works on a store, on the files of a working directory and on the standard output. Files
may be missing or refuse to be written, and the standard output may stop to take octets; a command
that could not hand over what it was asked for has failed.

## Main definitions

* `Admin.Outlet` — where the standard output goes, and how much it takes.
* `Admin.Report` — why a command failed, outermost reason first.
* `Admin.Run` — how a command ended, with its output and the files after it.
* `Admin.Command.execute` — a command on a store.
-/

namespace TileCache.Admin

/-! ## The standard output -/

/-- Where the standard output goes. When octets are written to it, it may break off after some of
them, for a reason. -/
structure Outlet where
  fault? : Octets → Option (Nat × String)

namespace Outlet

/-- An outlet that takes everything. -/
def unlimited : Outlet where
  fault? _ := none

/-- An outlet takes all of some octets. -/
def Takes (outlet : Outlet) (data : Octets) : Prop :=
  outlet.fault? data = none

/-- Writes octets: those that were taken, and why not all of them were, if so. -/
def write (outlet : Outlet) (data : Octets) : Octets × Option String :=
  match outlet.fault? data with
  | none => (data, none)
  | some (taken, reason) => (data.take taken, some reason)

end Outlet

/-! ## Runs -/

/-- Why a command failed, outermost reason first. -/
abbrev Report := List String

/-- The causes of a failure as lines, numbered if there are several. -/
def causeLines : List String → List String
  | [] => []
  | [cause] => ["    " ++ cause]
  | causes => causes.zipIdx.map fun (cause, i) => s!"    {i}: {cause}"

/-- A report as it is shown. -/
def Report.text : Report → String
  | [] => ""
  | [reason] => s!"Error: {reason}"
  | reason :: causes =>
    "\n".intercalate ([s!"Error: {reason}", "", "Caused by:"] ++ causeLines causes)

/-- How a command ended. -/
inductive Ending
  | done
  | failed (report : Report)
  | panicked (message : String)
  deriving DecidableEq, Repr

/-- How a command ended, with its output and the files after it. -/
structure Run where
  ending : Ending
  output : Octets := []
  files : Directory
  deriving DecidableEq

/-- The run of a command that needs no more than one call of the store. -/
def Run.ofCompletion {α : Type} (files : Directory) : Completion α → Run
  | .returned _ => { ending := .done, files }
  | .failed error => { ending := .failed error.chain, files }
  | .panicked message => { ending := .panicked message, files }

/-- The run of a command that failed for reasons of its own. -/
def Run.ofReport (files : Directory) (report : Report) : Run :=
  { ending := .failed report, files }

/-- The run of a command that ends with some octets for the standard output; `broken` is how it ends
if the outlet breaks off. -/
def Run.ofOutput (outlet : Outlet) (files : Directory) (data : Octets)
    (broken : String → Ending) : Run :=
  let (output, fault?) := outlet.write data
  { ending := (fault?.map broken).getD .done, output, files }

namespace Command

/-- Hands a blob over: to a file, or to the standard output if none is named. -/
def deliver (outlet : Outlet) (files : Directory) (output : Option String) (blob : Octets) : Run :=
  match output with
  | none => Run.ofOutput outlet files blob fun reason => .failed [reason]
  | some path =>
    match files.write path blob with
    | .ok files => { ending := .done, files }
    | .error fault => Run.ofReport files [s!"Failed to write {path}", fault.message]

/-- Prints a metadata value on a line, if there is one. A line that cannot be printed is a panic. -/
def printValue (outlet : Outlet) (files : Directory) (layer key : String) : Option String → Run
  | some value =>
    Run.ofOutput outlet files (Utf8.encode (value ++ "\n")) fun reason =>
      .panicked s!"failed printing to stdout: {reason}"
  | none => Run.ofReport files [s!"Layer '{layer}' has no metadata key '{key}'"]

/-- Carries out a command. -/
def execute (outlet : Outlet) (files : Directory) : Command → StoreM Run
  | check => return { ending := .done, files }
  | deleteLayer layer => return Run.ofCompletion files (← Store.deleteLayer layer)
  | deleteGridset layer gridset =>
    return Run.ofCompletion files (← Store.deleteGridset layer gridset)
  | getMetadata layer key => do
    match ← Store.getMetadata layer key with
    | .returned value => return printValue outlet files layer key value
    | ended => return Run.ofCompletion files ended
  | putMetadata layer key value =>
    return Run.ofCompletion files (← Store.putMetadata layer key value)
  | getTile address output => do
    match ← Store.get address.tile with
    | (.returned true, tile) => return deliver outlet files output (tile.blob.getD [])
    | (.returned false, tile) => return Run.ofReport files [s!"Tile {tile.text} not found"]
    | (ended, _) => return Run.ofCompletion files ended
  | putTile address input => do
    match files.read input with
    | .error fault => return Run.ofReport files [s!"Failed to read {input}", fault.message]
    | .ok blob => return Run.ofCompletion files (← Store.put (address.tile.withBlob blob))

end Command

end TileCache.Admin
