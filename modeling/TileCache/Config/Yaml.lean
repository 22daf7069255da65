import TileCache.Config.Record
import TileCache.Directory
import TileCache.Yaml.Block
set_option autoImplicit false

/-!
# Settings from a file

A file of settings is a YAML mapping; an empty one has no fields. Texts may be written as any
scalar, for the scalar's text is taken.

## Main definitions

* `Config.ofYaml?` — the settings of a YAML value.
* `Config.load` — the settings of a file.
-/

namespace TileCache.Config

/-- The notation of YAML. -/
def yamlReading : Reading Yaml where
  text? := Yaml.text?
  truth? := Yaml.truth?
  number? v := (v.number? UInt64.size).map UInt64.ofNat
  isNull := Yaml.isNull

/-- The value of a field, if it is given; nothing at all if it is given twice. -/
def yamlField? (fields : List (String × Yaml)) (name : String) : Option (Option Yaml) :=
  match fields.filter fun f => f.1 == name with
  | [] => some none
  | [f] => some (some f.2)
  | _ => none

/-- The settings of a mapping whose keys are scalars. -/
def ofYaml? : Yaml → Option Config
  | .scalar "" true => ofFields? yamlReading fun _ => some none
  | v => do ofFields? yamlReading (yamlField? (← v.fields?))

/-- The wording for a file that is not UTF-8. -/
def notUtf8 : String := "stream did not contain valid UTF-8"

/-- The settings of a file. -/
def load (files : Directory) (path : String) : Except StorageError Config := do
  let unreadable (reason : String) : StorageError := .config (.unreadable path reason)
  let data ← (files.read path).mapError fun fault => unreadable fault.message
  let text ← (Utf8.decode data).mapError fun _ => unreadable notUtf8
  match Yaml.parse? text.toList >>= ofYaml? with
  | some c => return c
  | none => throw (.config (.unparsable path))

end TileCache.Config
