import Storybind.Component.Exports
import Storybind.Lookup
import Storybind.Script.Directive
import Storybind.Script.Instruction
import Storybind.Script.Scene

/-!
Mounted components: the directives of all scenes in document order, each with an identity of its
own, and the script and stylesheet files that they name, every path loaded once.
-/

namespace Storybind

/-- A component mounted by a directive of a scene. -/
structure Mount where
  id : String
  component : String
  script : String
  stylesheet : Option String
  instanceName : String
  settings : Entries
  scene : String
  instruction : Int

/-- A failure that ends the extraction. -/
inductive MountError where
  | lookup (e : LookupError)
  | digits (e : DigitLimit)
  | noItems (instructions : Value)

def MountError.message : MountError → String
  | .lookup e => e.message
  | .digits e => e.message
  | .noItems v => "'" ++ v.kindName ++ "' object is not iterable"

namespace Mount

/-- What the stylesheet beside a script may be called, after the name without its extension. -/
def stylesheetSuffixes : List String := ["-styles.css", ".css", "-style.css"]

/-- The first of some paths that is found. -/
def firstFound (w : Workspace) (places : Lookup) : List String → Except LookupError (Option String)
  | [] => .ok none
  | candidate :: rest =>
    match Lookup.find w candidate places with
    | .error e => .error e
    | .ok (.file _ _) => .ok (some candidate)
    | .ok (.missing _ _) => firstFound w places rest

/-- The path of a script without the extension of its last segment; `none` if that has no point. -/
def scriptBase? (script : String) : Option String :=
  let cs := script.toList
  let segment := match Text.cutAtLast? '/' cs with
    | some (_, s) => s
    | none => cs
  if segment.contains '.' then (Text.cutAtLast? '.' cs).map fun r => String.ofList r.1 else none

/-- The stylesheet that stands beside a script. -/
def besideScript (w : Workspace) (places : Lookup) (script : String) :
    Except LookupError (Option String) :=
  match scriptBase? script with
  | none => .ok none
  | some base => firstFound w places (stylesheetSuffixes.map (base ++ ·))

/-- The identity of the `number`-th mounted component. -/
def identity (component scene : String) (number : Nat) : String :=
  "component-" ++ Text.lower component ++ "-" ++ scene ++ "-" ++ toString number

/-- The mount of the `number`-th directive. -/
def ofDirective (w : Workspace) (places : Lookup) (scene : String) (instruction number : Nat)
    (d : Directive) : Except MountError Mount := do
  let settings ← (MountSettings.read d.settings).mapError .digits
  let style ← match d.stylesheet with
    | some s => pure (some s)
    | none => (besideScript w places d.script).mapError .lookup
  pure ⟨identity d.component scene number, d.component, d.script, style, d.instanceName,
    settings.values, scene, instruction⟩

/-- The tokens of a scene, each with the index of its instruction. -/
def sceneTokens (scene : Scene) : List (Nat × DirectiveToken) :=
  scene.instructions.zipIdx.flatMap fun (v, index) =>
    (Instruction.texts true v).flatMap fun t => (Directive.find t.2).map fun token => (index, token)

/-- What extraction finds. -/
structure Extraction where
  mounts : List Mount
  warnings : List String

/-- Takes in one token of a scene. -/
def takeToken (w : Workspace) (places : Lookup) (scene : String) (found : Extraction)
    (token : Nat × DirectiveToken) : Except MountError Extraction :=
  match token with
  | (_, .malformed text _) =>
    .ok { found with warnings := found.warnings ++
      ["Malformed component directive in scene '" ++ scene ++ "': " ++ text] }
  | (index, .directive d) =>
    (ofDirective w places scene index (found.mounts.length + 1) d).map fun m =>
      { found with mounts := found.mounts ++ [m] }

/-- Takes in the record of a scene. -/
def takeRecord (w : Workspace) (places : Lookup) (found : Extraction) (record : Value) :
    Except MountError Extraction :=
  match Scene.ofRecord? record with
  | .error v => .error (.noItems v)
  | .ok none => .ok found
  | .ok (some scene) => (sceneTokens scene).foldlM (takeToken w places scene.name) found

/-- The mounted components of the records of scenes, in document order. -/
def extract (w : Workspace) (places : Lookup) (records : List Value) :
    Except MountError Extraction :=
  records.foldlM (takeRecord w places) ⟨[], []⟩

end Mount

/-- The kinds of file that a component consists of. -/
inductive PartKind where
  | script
  | stylesheet
deriving DecidableEq

def PartKind.word : PartKind → String
  | .script => "script"
  | .stylesheet => "stylesheet"

/-- A loaded file of a component. -/
structure Part where
  requested : String
  resolved : String
  component : String
  content : String

/-- The files of all mounted components. -/
structure Parts where
  scripts : List Part
  styles : List Part
  missing : List String
  warnings : List String

namespace Parts

def empty : Parts := ⟨[], [], [], []⟩

/-- The files that mounts ask for, each kind and path once, with the component that asks first. -/
def requests (mounts : List Mount) : List (PartKind × String × String) :=
  let all := mounts.flatMap fun m =>
    (PartKind.script, m.script, m.component) ::
      (match m.stylesheet with
        | some s => if s.isEmpty then [] else [(PartKind.stylesheet, s, m.component)]
        | none => [])
  all.foldl (fun done r => if done.any (fun d => d.1 = r.1 && d.2.1 = r.2.1) then done
    else done ++ [r]) []

/-- Leaves a file out, with a warning. -/
def leaveOut (path message : String) (parts : Parts) : Parts :=
  { parts with missing := parts.missing ++ [path], warnings := parts.warnings ++ [message] }

/-- Loads one file. -/
def loadOne (w : Workspace) (places : Lookup) (parts : Parts)
    (request : PartKind × String × String) : Except LookupError Parts :=
  let (kind, requested, component) := request
  match Lookup.find w requested places with
  | .error e => .error e
  | .ok (.missing _ _) =>
    .ok (parts.leaveOut requested
      ("Could not resolve " ++ kind.word ++ " for component " ++ component ++ ": " ++ requested))
  | .ok (.file path _) =>
    match w.readText path with
    | .error e =>
      .ok (parts.leaveOut requested
        ("Could not read " ++ kind.word ++ " for component " ++ component ++ " (" ++ path.toText ++
          "): " ++ e.message))
    | .ok content =>
      match kind with
      | .script =>
        .ok { parts with scripts := parts.scripts ++
          [⟨requested, path.toText, component, Exports.strip content⟩] }
      | .stylesheet =>
        .ok { parts with styles := parts.styles ++ [⟨requested, path.toText, component, content⟩] }

/-- Loads the files of mounted components. -/
def load (w : Workspace) (places : Lookup) (mounts : List Mount) : Except LookupError Parts :=
  (requests mounts).foldlM (loadOne w places) empty

/-- The scripts, one after another. -/
def scriptText (parts : Parts) : String := Text.join "\n\n" (parts.scripts.map (·.content))

/-- The stylesheets, each under a heading. -/
def styleText (parts : Parts) : String :=
  Text.join "\n\n" (parts.styles.flatMap fun p =>
    ["/* Component: " ++ p.component ++ " (" ++ p.requested ++ ") */", p.content])

end Parts
end Storybind
