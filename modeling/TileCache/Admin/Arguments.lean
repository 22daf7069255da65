import TileCache.Admin.Command
import TileCache.Text.Numeral
set_option autoImplicit false

/-!
# Reading a command line

Arguments are read from left to right. Options take one value each, attached or as the next
argument, and stand anywhere among the positional values of their command; a value of its own
argument never starts with a dash, unless it is a lone one. After a double dash all arguments are
positional. A value is checked when the next argument makes it final, so that asking for help
succeeds only if nothing before it is wrong.

The command line has two levels: options that come before the name of the command, and the
arguments of the command itself. Each level is described by a `Level`, and the same reader walks
both.

## Main definitions

* `Admin.Verdict` — what becomes of a command line: it is carried out, explained or refused.
* `Admin.ValueKind`, `Admin.Level` — what a level expects.
* `Admin.Progress`, `Admin.step` — what was read of a level, and one argument more.
* `Admin.parse` — the verdict on a list of arguments.
-/

namespace TileCache.Admin

/-- What becomes of a command line, or of a part of it. -/
inductive Verdict (α : Type)
  | accepted (value : α)
  /-- Help was asked for. -/
  | help
  /-- Something is wrong with the arguments. -/
  | misused
  deriving DecidableEq, Repr

/-! ## What is expected -/

/-- The kinds of values. -/
inductive ValueKind
  | text
  /-- A path is not empty. -/
  | path
  /-- A 32-bit word. -/
  | word
  deriving DecidableEq, Repr

/-- The 32-bit word that a text stands for. -/
def word? (text : String) : Option UInt32 :=
  (Text.readNatural UInt32.size text.toList).toOption.map UInt32.ofNat

/-- Whether a text is a value of a kind. -/
def ValueKind.allows : ValueKind → String → Bool
  | text, _ => true
  | path, value => value != ""
  | word, value => (word? value).isSome

/-- An option with its value. -/
structure OptionSpec where
  name : String
  letter : Option Char := none
  kind : ValueKind := .text
  deriving DecidableEq, Repr

/-- What one level expects. -/
structure Level where
  positionals : List ValueKind := []
  options : List OptionSpec := []
  deriving DecidableEq, Repr

/-! ## What was read -/

/-- The argument that was read last and may not be final. -/
inductive Held
  | nothing
  /-- An option, with its value if it has come. -/
  | option (spec : OptionSpec) (value : Option String)
  | positional (kind : ValueKind) (value : String)
  deriving DecidableEq, Repr

/-- What was read of a level. -/
structure Progress where
  positionals : List String := []
  options : List (String × String) := []
  held : Held := .nothing
  /-- Whether a double dash went before. -/
  trailing : Bool := false
  deriving DecidableEq, Repr

namespace Progress

/-- What was read, with nothing held any more, unless what was held is wrong: an option without
value or for the second time, or a value not of its kind. -/
def settle (p : Progress) : Option Progress :=
  match p.held with
  | .nothing => some p
  | .option _ none => none
  | .option spec (some value) =>
    if p.options.any (fun o => o.1 == spec.name) || !spec.kind.allows value then none
    else some { p with options := p.options ++ [(spec.name, value)], held := .nothing }
  | .positional kind value =>
    if kind.allows value then
      some { p with positionals := p.positionals ++ [value], held := .nothing }
    else none

/-- Whether an option waits for its value. -/
def isWaiting (p : Progress) : Bool :=
  match p.held with
  | .option _ none => true
  | _ => false

end Progress

/-- What one argument leads to. -/
inductive Step
  | next (p : Progress)
  /-- It is a word, no option. -/
  | word
  | help
  | misused

/-- Help, if nothing before is wrong. -/
def askHelp (p : Progress) : Step :=
  if p.settle.isSome then .help else .misused

/-- An option with or without an attached value. -/
def takeOption (p : Progress) (spec : Option OptionSpec) (value : Option String) : Step :=
  match spec, p.settle with
  | some spec, some p =>
    match value with
    | none => .next { p with held := .option spec none }
    | some _ =>
      match { p with held := .option spec value }.settle with
      | some p => .next p
      | none => .misused
  | _, _ => .misused

/-- The name before an equals sign, and the value behind it if there is one. -/
def splitEquals (cs : List Char) : String × Option String :=
  (String.ofList (cs.takeWhile (· != '=')),
    match cs.dropWhile (· != '=') with
    | _ :: value => some (String.ofList value)
    | [] => none)

/-- The value attached to an option's letter. -/
def attached : List Char → Option String
  | [] => none
  | '=' :: value => some (String.ofList value)
  | value => some (String.ofList value)

/-- What an argument leads to as an option or a double dash. -/
def step (level : Level) (p : Progress) (argument : String) : Step :=
  if p.trailing then .word
  else match argument.toList with
    | ['-', '-'] => .next { p with trailing := true }
    | '-' :: '-' :: cs =>
      let (name, value) := splitEquals cs
      if name = "help" then if value.isSome then .misused else askHelp p
      else takeOption p (level.options.find? fun o => o.name == name) value
    | '-' :: c :: cs =>
      if c = 'h' then askHelp p
      else takeOption p (level.options.find? fun o => o.letter == some c) (attached cs)
    | _ => .word

/-- What was read after a word that is the value of a waiting option or a positional value. -/
def takeWord (level : Level) (p : Progress) (word : String) : Option Progress :=
  match p.held, p.trailing with
  | .option spec none, false => some { p with held := .option spec (some word) }
  | _, _ => do
    let p ← p.settle
    let kind ← level.positionals[p.positionals.length]?
    return { p with held := .positional kind word }

/-! ## Commands -/

/-- A command with what it expects, and how it is made of its values. -/
structure CommandSpec where
  name : String
  level : Level := {}
  make : List String → (String → Option String) → Option Command

/-- What an address of a tile expects. -/
def addressPositionals : List ValueKind :=
  [.text, .text, .word, .word, .word]

/-- The options of an address of a tile. -/
def addressOptions : List OptionSpec :=
  [{ name := "format", letter := some 'f' }, { name := "parameters-id" }]

/-- The address of a tile from its values. -/
def address? (positionals : List String) (option : String → Option String) : Option TileAddress :=
  match positionals with
  | [layer, gridset, z, x, y] => do
    let coord : Coord := { z := ← word? z, x := ← word? x, y := ← word? y }
    return { layer, gridset, coord, format := ← option "format",
             parameters := option "parameters-id" }
  | _ => none

/-- The commands. -/
def commandSpecs : List CommandSpec :=
  [{ name := "check"
     make
       | [], _ => some .check
       | _, _ => none },
   { name := "delete-layer"
     level := { positionals := [.text] }
     make
       | [layer], _ => some (.deleteLayer layer)
       | _, _ => none },
   { name := "delete-gridset"
     level := { positionals := [.text, .text] }
     make
       | [layer, gridset], _ => some (.deleteGridset layer gridset)
       | _, _ => none },
   { name := "get-metadata"
     level := { positionals := [.text, .text] }
     make
       | [layer, key], _ => some (.getMetadata layer key)
       | _, _ => none },
   { name := "put-metadata"
     level := { positionals := [.text, .text, .text] }
     make
       | [layer, key, value], _ => some (.putMetadata layer key value)
       | _, _ => none },
   { name := "get-tile"
     level :=
       { positionals := addressPositionals
         options := addressOptions ++ [{ name := "output", letter := some 'o', kind := .path }] }
     make positionals option := do
       return .getTile (← address? positionals option) (option "output") },
   { name := "put-tile"
     level :=
       { positionals := addressPositionals
         options := addressOptions ++ [{ name := "input", letter := some 'i', kind := .path }] }
     make positionals option := do
       return .putTile (← address? positionals option) (← option "input") }]

/-- The command with a name. -/
def commandSpec? (name : String) : Option CommandSpec :=
  commandSpecs.find? fun c => c.name == name

/-- The command that its arguments make. -/
def parseCommand (spec : CommandSpec) (p : Progress) : List String → Verdict Command
  | [] =>
    match p.settle with
    | none => .misused
    | some p =>
      match spec.make p.positionals fun name => p.options.lookup name with
      | some command => .accepted command
      | none => .misused
  | argument :: rest =>
    match step spec.level p argument with
    | .next p => parseCommand spec p rest
    | .help => .help
    | .misused => .misused
    | .word =>
      match takeWord spec.level p argument with
      | some p => parseCommand spec p rest
      | none => .misused

/-- How the program is called. -/
def usage : String :=
  "Usage: tile-store-admin [--config <CONFIG>] [--log-level <LOG_LEVEL>] <COMMAND>\n\nCommands: " ++
    ", ".intercalate (commandSpecs.map (·.name))

/-! ## The whole line -/

/-- What is expected before the name of the command. -/
def outerLevel : Level where
  options := [{ name := "config", kind := .path }, { name := "log-level" }]

/-- The word that asks for help, alone or about one command. -/
def helpWord : String := "help"

/-- The verdict on the word that asks for help, given what follows it. -/
def parseHelp : List String → Verdict Invocation
  | [] => .help
  | [topic] => if topic = helpWord || (commandSpec? topic).isSome then .help else .misused
  | _ => .misused

/-- The command line of a command and the options before it. If no file of settings is named, there
may be one by default. -/
def finish (fallback : Option String) (p : Progress) (command : Command) : Verdict Invocation :=
  match p.settle with
  | none => .misused
  | some p =>
    let config := (p.options.lookup "config").orElse fun _ => fallback
    if config.all ValueKind.path.allows then
      .accepted { config, logLevel := (p.options.lookup "log-level").getD "info", command }
    else .misused

/-- The verdict on a command line of which some options were read. -/
def parseFrom (fallback : Option String) (p : Progress) : List String → Verdict Invocation
  | [] => .misused
  | argument :: rest =>
    match step outerLevel p argument with
    | .next p => parseFrom fallback p rest
    | .help => .help
    | .misused => .misused
    | .word =>
      if p.trailing then .misused
      else if p.isWaiting then
        match takeWord outerLevel p argument with
        | some p => parseFrom fallback p rest
        | none => .misused
      else if argument = helpWord then parseHelp rest
      else match commandSpec? argument with
        | none => .misused
        | some spec =>
          match parseCommand spec {} rest with
          | .accepted command => finish fallback p command
          | .help => .help
          | .misused => .misused

/-- The verdict on a list of arguments, given the file of settings to use if none is named. -/
def parse (fallback : Option String) (arguments : List String) : Verdict Invocation :=
  parseFrom fallback {} arguments

end TileCache.Admin
