import Storybind.Component.Mount
import Storybind.Dependency.Fetch
import Storybind.Dependency.Shorthand
import Storybind.Json.Writer
import Storybind.Player

/-!
How a compile fails: a failure is reported in the result of the compile, a breakdown ends the
compile without a result.
-/

namespace Storybind

/-- A failure that the result of a compile reports. -/
inductive Failure where
  | noScript (input : String)
  | unreadable (input : String) (e : TextFileError)
  | badYaml (r : Yaml.Refusal)
  | noMapping
  | noScenes
  | noSection (name : String)
  | badScenes (e : SceneError)
  | noTemplate (e : TemplateError)
  | notSaved (output : String) (e : FileError)

def Failure.message : Failure → String
  | .noScript input => "Script file not found: " ++ input
  | .unreadable input e => "Failed to load script " ++ input ++ ": " ++ e.message
  | .badYaml r => "Invalid YAML in script: " ++ r.message
  | .noMapping => "Script must be a mapping at the top level"
  | .noScenes => "Script must define 'scenes' as a mapping of scene name to instructions"
  | .noSection name => "Script '" ++ name ++ "' must be a mapping"
  | .badScenes e => "Scenes could not be loaded: " ++ e.message
  | .noTemplate e => e.message
  | .notSaved output e => "Failed to write output " ++ output ++ ": " ++ e.message

/-- What ends a compile without a result. -/
inductive Breakdown where
  | text (e : TextFileError)
  | file (e : FileError)
  | scalar (e : Yaml.ScalarError)
  | scenes (e : SceneError)
  | entry (e : EntryError)
  | lookup (e : LookupError)
  | mount (e : MountError)
  | fetch (e : Fetch.Breakdown)
  | data (e : Json.WriteError)

def Breakdown.message : Breakdown → String
  | .text e => e.message
  | .file e => e.message
  | .scalar e => e.message
  | .scenes e => e.message
  | .entry e => e.message
  | .lookup e => e.message
  | .mount e => e.message
  | .fetch e => e.message
  | .data e => e.message

/-- Why a compile gives no page. -/
inductive Stop where
  | failure (f : Failure)
  | breakdown (b : Breakdown)

/-- How a compile ends where a template cannot be loaded. -/
def Stop.ofTemplate : TemplateError → Stop
  | .missing path e => .failure (.noTemplate (.missing path e))
  | .escaped e => .breakdown (.text e)

end Storybind
