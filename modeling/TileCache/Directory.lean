import TileCache.SortedMap
import TileCache.Text.Utf8
set_option autoImplicit false

/-!
# Files in a working directory

The files that a command line reads and writes, by their paths seen from one working directory. A
path is a list of pieces parted by slashes; empty pieces and lone dots mean nothing, and two dots
lead one level up from a folder that exists. A folder is known by the files below it, or for itself;
the working directory and what is above it are folders, and whatever else is not known does not
exist.

## Main definitions

* `Directory` — the files by path.
* `FileFault` — why a file cannot be read or written, worded by `FileFault.message`.
* `Directory.resolve` — the place that a path leads to.
* `Directory.read`, `Directory.write` — the octets of a file, and the directory after a write.

## Main statements

* `Directory.find?_put` — a file holds what was put there.
-/

namespace TileCache

/-- Why a file cannot be read or written. -/
inductive FileFault
  | missing
  /-- A file stands where a folder should. -/
  | notDirectory
  | isDirectory
  /-- The path holds a null character. -/
  | nullInPath
  deriving DecidableEq, Repr

/-- The wording of a file fault. -/
def FileFault.message : FileFault → String
  | missing => "No such file or directory (os error 2)"
  | notDirectory => "Not a directory (os error 20)"
  | isDirectory => "Is a directory (os error 21)"
  | nullInPath => "file name contained an unexpected NUL byte"

/-- The files of a working directory, by the names of their places. -/
structure Directory where
  files : SortedMap String Octets := .empty
  /-- Folders that may hold no file. -/
  folders : List String := []
  deriving DecidableEq

namespace Directory

/-- The levels that lead to a file or a folder. -/
abbrev Place := List String

/-- The pieces of a path that mean something. A path that starts with a slash is not seen from the
working directory; the slash is its first piece. -/
def pieces (path : String) : Place :=
  let inner := (path.splitOn "/").filter fun piece => piece != "" && piece != "."
  if path.startsWith "/" then "/" :: inner else inner

/-- The name of a place. -/
def nameOf (place : Place) : String :=
  "/".intercalate place

/-- The directory that holds the given files; of two with one path the later stays. -/
def ofList (files : List (String × Octets)) : Directory :=
  { files := SortedMap.ofList (files.map fun (path, data) => (nameOf (pieces path), data)) }

/-- The file at a place. -/
def find? (d : Directory) (place : Place) : Option Octets :=
  d.files.find? (nameOf place)

/-- Whether a place is the working directory or above it. -/
def isAbove (place : Place) : Bool :=
  place.all (· == "..") || place == ["/"]

/-- Whether a place is a folder. -/
def isFolder (d : Directory) (place : Place) : Bool :=
  isAbove place || d.folders.any (fun folder => pieces folder == place) ||
    d.files.keys.any fun file =>
      place.isPrefixOf (pieces file) && place.length < (pieces file).length

/-- Whether the way to a place leads through a file. -/
def passesFile (d : Directory) (place : Place) : Bool :=
  d.files.keys.any fun file =>
    (pieces file).isPrefixOf place && (pieces file).length < place.length

/-- Why nothing can be reached by way of a place that is no folder. -/
def obstacle (d : Directory) (place : Place) : FileFault :=
  if (d.find? place).isSome || d.passesFile place then .notDirectory else .missing

/-- The place one level up. -/
def parent (place : Place) : Place :=
  if place == ["/"] then place
  else if isAbove place then place ++ [".."]
  else place.dropLast

/-- The place that some pieces lead to, seen from another place. -/
def resolveFrom (d : Directory) (place : Place) : List String → Except FileFault Place
  | [] => .ok place
  | piece :: rest =>
    if piece = ".." then
      if d.isFolder place then resolveFrom d (parent place) rest else .error (d.obstacle place)
    else resolveFrom d (place ++ [piece]) rest

/-- The place that a path leads to. -/
def resolve (d : Directory) (path : String) : Except FileFault Place :=
  if path.contains '\x00' then .error .nullInPath
  else if path = "" then .error .missing
  else resolveFrom d [] (pieces path)

/-- The octets of a file. -/
def read (d : Directory) (path : String) : Except FileFault Octets := do
  let place ← d.resolve path
  match d.find? place with
  | some data => if path.endsWith "/" then throw .notDirectory else return data
  | none => if d.isFolder place then throw .isDirectory else throw (d.obstacle place)

/-- The directory with a file at a place. -/
def put (d : Directory) (place : Place) (data : Octets) : Directory :=
  { d with files := d.files.insert (nameOf place) data }

/-- A file holds what was put there. -/
theorem find?_put (d : Directory) (place : Place) (data : Octets) :
    (d.put place data).find? place = some data := by
  simp [find?, put, SortedMap.find?_insert_self]

/-- The directory after a file is written. Its folder has to exist. -/
def write (d : Directory) (path : String) (data : Octets) : Except FileFault Directory := do
  let place ← d.resolve path
  if d.isFolder place then throw .isDirectory
  else if d.passesFile place then throw .notDirectory
  else if !d.isFolder place.dropLast then throw .missing
  else if path.endsWith "/" then throw .isDirectory
  else return d.put place data

end Directory

end TileCache
