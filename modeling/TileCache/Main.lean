import TileCache.Admin.Session
set_option autoImplicit false

/-!
# The admin command line

Reads the variables and the files that a command line needs, carries it out, and writes what came
of it. The bucket is kept in memory: it is empty at the start and gone at the end.

## Main definitions

* `main` — the program.
-/

open TileCache TileCache.Admin

namespace TileCache.Console

/-- The variables of the settings, as they are set. -/
def readVariables : IO Environment := do
  let mut env := Environment.empty
  for name in configVariable :: Config.variableNames do
    if let some value ← IO.getEnv name then
      env := env.assign name (Utf8.encode value)
  return env

/-- A directory that also knows a path and its parent, if there is something. -/
def learn (files : Directory) (path : String) : IO Directory := do
  let place := Directory.pieces path
  let mut files := files
  for folder in [place, place.dropLast] do
    let name := Directory.nameOf folder
    try
      if ← (← IO.FS.realPath name).isDir then
        files := { files with folders := name :: files.folders }
    catch _ => pure ()
  try
    return files.put place (← IO.FS.readBinFile path).toList
  catch _ => return files

/-- The file that a command reads, and the one that it writes. -/
def commandFiles : Command → List String × Option String
  | .getTile _ output => ([], output)
  | .putTile _ input => ([input], none)
  | _ => ([], none)

/-- Writes a file back if it changed. -/
def store (before after : Directory) (path : String) : IO Unit := do
  match after.read path with
  | .ok data =>
    if (before.read path).toOption != some data then
      IO.FS.writeBinFile path (ByteArray.mk data.toArray)
  | .error _ => return ()

/-- A host whose clients are made without fail, since the bucket is in memory. -/
def host : Host where
  clients := .lenient

/-- Shows what came of a command line, and returns its exit code. -/
def conclude (outcome : Outcome) : IO UInt32 := do
  (← IO.getStdout).write (ByteArray.mk outcome.output.toArray)
  if let some report := outcome.report then
    IO.eprintln report.text
  return UInt32.ofNat outcome.exitCode

end TileCache.Console

/-- Carries out the command line that it is given. -/
def main (arguments : List String) : IO UInt32 := do
  let env ← Console.readVariables
  let files ← Console.learn {} variablesFile
  match parseIn (supplied env files) arguments with
  | .help =>
    IO.println usage
    return 0
  | .misused =>
    IO.eprintln usage
    return 2
  | .accepted i =>
    let (inputs, output) := Console.commandFiles i.command
    let files ← (i.config.toList ++ inputs ++ output.toList).foldlM Console.learn files
    let outcome := runLine Console.host arguments env files {} {}
    for path in output do
      Console.store files outcome.files path
    Console.conclude outcome
