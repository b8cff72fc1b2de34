import Storybind.Compile.Failure
import Storybind.Yaml.Dump

/-!
The story that is compiled: a mapping that has scenes under `scenes`, and variables and styles that
are mappings where they are given.
-/

namespace Storybind

/-- A story: its sections, and its scenes with the label of their mapping. -/
structure Story where
  sections : Entries
  scenesLabel : Nat
  scenes : Entries

namespace Story

/-- The section of a name; null if there is none. -/
def part (s : Story) (name : String) : Value := (Entries.get? name s.sections).getD .null

/-- A section that is a mapping; empty if it does not count as present. -/
def mapping (s : Story) (name : String) : Value :=
  (Value.truthy? name s.sections).getD (.ofEntries [])

/-- The text of the story and the full path it was read from; a text with a line break is the story
itself. -/
def read (w : Workspace) (input : String) : Except Stop (String × Option Path) :=
  if input.toList.contains '\n' then .ok (input, none)
  else
    let p := Path.ofString input
    match w.isFile p with
    | .error e => .error (.breakdown (.file e))
    | .ok false => .error (.failure (.noScript input))
    | .ok true =>
      match w.readText p with
      | .error e => .error (.failure (.unreadable input e))
      | .ok text => .ok (text, some (w.resolve p))

/-- Whether a section that must be a mapping is one, or is not given. -/
def isMappingOrNull : Option Value → Bool
  | none => true
  | some .null => true
  | some (.mapping _ _) => true
  | some _ => false

/-- The story that a loaded value is. -/
def ofValue : Value → Except Failure Story
  | .mapping _ sections =>
    match Entries.get? "scenes" sections with
    | some (.mapping label scenes) =>
      match ["variables", "styles"].find? fun n => !isMappingOrNull (Entries.get? n sections) with
      | some name => .error (.noSection name)
      | none => .ok ⟨sections, label, scenes⟩
    | _ => .error .noScenes
  | _ => .error .noMapping

/-- The story in a text. -/
def ofText (text : String) : Except Stop Story :=
  match Yaml.load text with
  | .error (.refused r) => .error (.failure (.badYaml r))
  | .error (.scalar e) => .error (.breakdown (.scalar e))
  | .ok v => (ofValue v).mapError .failure

/-- The text of the scenes alone, which those with a number of too many digits do not have. -/
def scenesText (s : Story) : Except Stop String :=
  if Yaml.entriesHoldUnwritable s.scenes then .error (.breakdown (.data .tooManyDigits))
  else .ok (Yaml.dump s.scenesLabel s.scenes)

end Story

/-- What makes scenes of the text of scenes: records with a name and instructions. -/
abbrev Engine := String → Except SceneError (List Value)

namespace Engine

/-- The scenes as a book of scenes loads them. -/
def usual : Engine := fun text => (Scene.load text).map fun scenes => scenes.map Scene.toRecord

/-- Whether a refusal of scenes is a failure of the compile. -/
def isFailure : SceneError → Bool
  | .yaml (.scalar (.unknownTruth _)) => false
  | .yaml (.scalar .noTimestamp) => false
  | .yaml (.scalar .emptyNumber) => false
  | .yaml (.scalar .codePointSize) => false
  | .yaml (.scalar .noText) => false
  | _ => true

/-- The scenes of a text. -/
def run (engine : Engine) (text : String) : Except Stop (List Value) :=
  (engine text).mapError fun e =>
    if isFailure e then .failure (.badScenes e) else .breakdown (.scenes e)

end Engine
end Storybind
