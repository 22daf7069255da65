import TileCache.Admin.Arguments
import TileCache.Admin.Run
import TileCache.Config.Environment
import TileCache.Config.Yaml
import TileCache.Environment.File
set_option autoImplicit false

/-!
# Sessions of the admin command line

A session loads the settings, connects to the bucket, carries out its command and shuts the store
down. Settings come from the file that is named, or else from the environment, which a file of
variables in the working directory may supply first. A command that may change the bucket runs with
the console registered as a listener, so that what it changes is logged; the shutdown drops the
console with all other listeners.

## Main definitions

* `World.logged` — what the console wrote to the log.
* `Admin.Host` — how clients are built, and where the standard output goes.
* `Admin.loadConfig` — the settings, complete and checked.
* `Admin.connect` — a store whose bucket can be reached.
* `Admin.carryOut` — a command on a store that is shut down afterwards.
* `Admin.Outcome` — what a command line leaves behind: exit code, report, output, log and files.
* `Admin.runLine` — a whole command line.
-/

namespace TileCache

/-- What the console wrote to the log. -/
def World.logged (w : World) : List LogEntry :=
  (w.deliveries.filter fun d => d.listener = .console).map fun d => d.event.logEntry

namespace Admin

/-- What a command line relies on besides the files: how clients of buckets are built, and where the
standard output goes. -/
structure Host where
  clients : ClientBuilder
  stdout : Outlet := .unlimited

/-- An outcome whose failures are explained further by the chain of an error. -/
def explain {α : Type} (reason : String) : Except StorageError α → Except Report α
  | .ok a => .ok a
  | .error error => .error (reason :: error.chain)

/-- The settings of a file or of the environment, complete and checked. -/
def loadConfig (path : Option String) (env : Environment) (files : Directory) :
    Except Report Config := do
  let config ← match path with
    | some path => explain s!"Failed to load {path}" (Config.load files path)
    | none => explain "Invalid TILE_STORE_* environment" (Config.ofEnvironment env)
  explain "Incomplete store configuration" config.validate
  return config

/-- The store that some settings describe over the bucket of a session, once the bucket was
reached. -/
def connect (builder : ClientBuilder) (config : Config) (context : Context) (session : Session) :
    Completion World × Session :=
  match config.store builder with
  | .error error => (.failed error, session)
  | .ok store =>
    let (completion, world) := Store.checkAccess.runIn context { store, session }
    match completion with
    | .returned _ => (.returned world, world.session)
    | .failed error => (.failed error, world.session)
    | .panicked message => (.panicked message, world.session)

/-- Carries out a command on a store, with the console listening if the command may change the
bucket, and shuts the store down. -/
def carryOut (outlet : Outlet) (files : Directory) (command : Command) : StoreM Run := do
  if command.isMutating then
    Store.addListener .console
  let run ← command.execute outlet files
  Store.destroy
  return run

/-- What a command line leaves behind. -/
structure Outcome where
  exitCode : Nat
  /-- Why it failed, if it did so after its arguments were understood. -/
  report : Option Report := none
  output : Octets := []
  /-- What the console wrote to the log. -/
  log : List LogEntry := []
  files : Directory
  session : Session

/-- The exit code of a program that panicked. -/
def panicCode : Nat := 101

/-- What a run leaves behind that ended in a world. -/
def Outcome.ofRun (run : Run) (world : World) : Outcome :=
  let outcome : Outcome :=
    { exitCode := 0, output := run.output, log := world.logged, files := run.files,
      session := world.session }
  match run.ending with
  | .done => outcome
  | .failed report => { outcome with exitCode := 1, report := some report }
  | .panicked _ => { outcome with exitCode := panicCode }

/-- What a failure before the command leaves behind. -/
def Outcome.failed (report : Report) (files : Directory) (session : Session) : Outcome :=
  { exitCode := 1, report := some report, files, session }

/-- Carries out a command line that was understood. -/
def runInvocation (host : Host) (i : Invocation) (env : Environment) (files : Directory)
    (context : Context) (session : Session) : Outcome :=
  match loadConfig i.config env files with
  | .error report => .failed report files session
  | .ok config =>
    match connect host.clients config context session with
    | (.returned world, _) =>
      let (run, world) := (carryOut host.stdout files i.command).runIn context world
      .ofRun run world
    | (.failed error, session) =>
      .failed (s!"Cannot access bucket '{config.bucket}'" :: error.chain) files session
    | (.panicked _, session) => { exitCode := panicCode, files, session }

/-- The file of variables in the working directory. -/
def variablesFile : String := ".env"

/-- The environment, supplied from the file of variables if there is one. -/
def supplied (env : Environment) (files : Directory) : Environment :=
  match files.read variablesFile with
  | .ok data => env.withFile data
  | .error _ => env

/-- The variable that names the file of settings. -/
def configVariable : String := "TILE_STORE_CONFIG"

/-- The path that a variable holds. Octets that are not UTF-8 name no file there is. -/
def pathOf (data : Octets) : String :=
  Utf8.decodeLossy data

/-- The verdict on a command line in an environment. -/
def parseIn (env : Environment) (arguments : List String) : Verdict Invocation :=
  parse ((env configVariable).map pathOf) arguments

/-- Carries out a whole command line. -/
def runLine (host : Host) (arguments : List String) (env : Environment) (files : Directory)
    (context : Context) (session : Session) : Outcome :=
  let env := supplied env files
  match parseIn env arguments with
  | .help => { exitCode := 0, files, session }
  | .misused => { exitCode := 2, files, session }
  | .accepted i => runInvocation host i env files context session

end Admin

end TileCache
