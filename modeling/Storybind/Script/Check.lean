import Storybind.Lookup
import Storybind.Script.Directive
import Storybind.Script.Helper
import Storybind.Script.Instruction
import Storybind.Script.Issue
import Storybind.Script.Reach
import Storybind.Yaml.Dump
import Storybind.Yaml.Load

/-!
Checking a script without compiling it: its sections, its scenes and their instructions, references
between scenes, input fields, component directives and references to assets, in this order.
-/

namespace Storybind.Check

open Report (issue warning)

/-- The most characters of a scene name and of a choice, and the most choices, without a warning. -/
def longName : Nat := 50
def longChoice : Nat := 100
def manyChoices : Nat := 6

/-- The kinds of actions, of input fields and of assets. -/
def actionTypes : List String :=
  ["setVar", "addVar", "setFlag", "clearFlag", "addToList", "addTime"]
def inputTypes : List String :=
  ["text", "number", "select", "checkbox", "radio", "textarea", "range"]
def assetTypes : List String := ["image", "audio", "video"]

/-- Scene names that are refused. -/
def reservedNames : List String := ["constructor", "prototype", "__proto__"]

/-- Pieces of the names of scenes where a story may start. -/
def startHints : List String := ["start", "intro", "begin"]

/-- The text under a name, if it is a text and not empty. -/
def filledText? (name : String) (entries : Entries) : Option String :=
  (Instruction.textAt? name entries).filter fun s => !s.isEmpty

/-- Whether the value under a name is present. -/
def isPresent (name : String) (entries : Entries) : Bool :=
  (Value.truthy? name entries).isSome

/-- Whether the value under a name is neither missing nor null, and no mapping. -/
def isMisshapen (name : String) (entries : Entries) : Bool :=
  match Entries.get? name entries with
  | none | some .null | some (.mapping _ _) => false
  | _ => true

/-! ### Sections -/

/-- Checks one entry of the assets section. -/
def asset (index : Nat) : Value → Report
  | .mapping _ entries =>
    let label := match Value.truthy? "name" entries with
      | some v => v.display
      | none => toString index
    let name := match filledText? "name" entries with
      | some _ => Report.empty
      | none =>
        issue .asset none ("Asset at index " ++ toString index ++ " missing or invalid 'name' field")
          "Add a string 'name' field to identify the asset"
    let url := match filledText? "url" entries with
      | some _ => Report.empty
      | none =>
        issue .asset none ("Asset '" ++ label ++ "' missing or invalid 'url' field")
          "Add a string 'url' field with the asset file path or URL"
    let kind := match filledText? "type" entries with
      | none =>
        issue .asset none ("Asset '" ++ label ++ "' missing or invalid 'type' field")
          "Add a 'type' field: 'image', 'audio', or 'video'"
      | some t =>
        if assetTypes.contains t then Report.empty
        else
          warning ("Asset '" ++ label ++ "' has unusual type '" ++ t ++
            "' (expected: image, audio, video)")
    name ++ url ++ kind
  | _ =>
    issue .asset none ("Asset at index " ++ toString index ++ " must be a mapping")
      "Define each asset with name, url, and type fields"

/-- Checks the scenes section as a whole. -/
def scenesSection (entries : Entries) : Report :=
  match Entries.get? "scenes" entries with
  | none | some .null =>
    issue .syntaxRule none "Missing required 'scenes' section"
      "Add a 'scenes:' section with your scene definitions"
  | some (.mapping _ _) => .empty
  | some _ =>
    issue .syntaxRule none "Scenes section must be a mapping"
      "Define scenes as a mapping with scene names as keys"

/-- Checks title and description. -/
def heading (entries : Entries) : Report :=
  let title := match Value.truthy? "title" entries with
    | none => warning "Consider adding a 'title' field for your game"
    | some (.text _) => .empty
    | some _ =>
      issue .syntaxRule none "Title must be a string"
        "Set title as a quoted string: title: \"Your Game Title\""
  let description := match Value.truthy? "description" entries with
    | none => warning "Consider adding a 'description' field for your game"
    | some (.text _) => .empty
    | some _ => warning "Description should be a string"
  title ++ description

/-- Checks the sections that must be mappings or lists. -/
def sections (entries : Entries) : Report :=
  let gameVariables := if isMisshapen "variables" entries then
      issue .syntaxRule none "Variables section must be a mapping"
        "Define variables as key-value pairs: variables: \x7b playerName: \"\", score: 0 \x7d"
    else .empty
  let styles := if isMisshapen "styles" entries then
      issue .syntaxRule none "Styles section must be a mapping"
        "Define styles as key-value pairs: styles: \x7b theme: modern \x7d"
    else .empty
  let assets := match Value.truthy? "assets" entries with
    | none => Report.empty
    | some (.list _ items) => .concat (items.zipIdx.map fun (v, index) => asset index v)
    | some _ =>
      issue .asset none "Assets section must be a list" "Define assets as a list of asset mappings"
  gameVariables ++ styles ++ assets

/-- Checks the sections of a script. -/
def structure_ : Value → Report
  | .mapping _ entries => scenesSection entries ++ heading entries ++ sections entries
  | _ =>
    issue .syntaxRule none "Script must be a YAML mapping with game structure"
      "Ensure your script is a mapping with title, scenes, etc."

/-! ### Scenes -/

/-- A name as scenes should have: a letter, then letters, digits and underscores, all of ASCII. One
line break may follow it. -/
def isPlainName (name : String) : Bool :=
  match name.toList with
  | [] => false
  | c :: cs =>
    let body := match cs.reverse with
      | '\n' :: r => r.reverse
      | _ => cs
    Text.isAsciiLetter c && body.all fun c => Text.isAsciiAlnum c || c = '_'

/-- Checks the name of a scene. -/
def sceneName (name : String) : Report :=
  let plain := if isPlainName name then Report.empty
    else
      warning ("Scene name '" ++ name ++
        "' may cause issues (use only letters, numbers, underscores)")
  let long := if longName < name.length then
      warning ("Scene name '" ++ name ++ "' is very long (" ++ toString name.length ++ " characters)")
    else .empty
  let reserved := if reservedNames.contains name then
      issue .reference none ("Scene name '" ++ name ++ "' is reserved and cannot be used")
        ("Rename scene '" ++ name ++ "' to something else")
    else .empty
  plain ++ long ++ reserved

/-- Checks one choice. -/
def choice (scene : String) (location : Location) (number : Nat) (v : Value) : Report :=
  let text := match v with
    | .mapping _ entries => Value.truthy? "text" entries
    | _ => none
  match text with
  | none =>
    issue .syntaxRule (some location)
      ("Choice " ++ toString number ++ " in scene '" ++ scene ++ "' missing text")
      "All choices must have a 'text' property"
  | some (.text s) =>
    if longChoice < s.length then
      warning ("Very long choice text (" ++ toString s.length ++ " chars) in scene '" ++ scene ++ "'")
    else .empty
  | some _ => .empty

/-- Checks the choices of an instruction. -/
def choices (scene : String) (location : Location) : Value → Report
  | .list _ items =>
    if items.isEmpty then
      warning ("Empty choices list in scene '" ++ scene ++ "' at line " ++
        toString (location.line.getD 0))
    else
      (if manyChoices < items.length then
        warning ("Many choices (" ++ toString items.length ++ ") in scene '" ++ scene ++
          "' - consider splitting")
      else .empty) ++
        .concat (items.zipIdx.map fun (v, index) => choice scene location (index + 1) v)
  | _ =>
    issue .syntaxRule (some location) ("Choices in scene '" ++ scene ++ "' must be a list")
      "Convert choices to a YAML list"

/-- Whether a value is a number. -/
def isNumber : Value → Bool
  | .int _ | .float _ => true
  | _ => false

/-- Checks an action of a known type. -/
def actionOf (scene type : String) (location : Location) (entries : Entries) : Report :=
  let problem := issue .syntaxRule (some location)
  if type = "setVar" || type = "addVar" then
    (if isPresent "key" entries then .empty
      else
        problem (type ++ " action missing 'key' property in scene '" ++ scene ++ "'")
          "Add a 'key' property to specify the variable name") ++
      (if (Entries.get? "value" entries).isSome then .empty
      else warning (type ++ " action in scene '" ++ scene ++ "' has undefined value"))
  else if type = "setFlag" || type = "clearFlag" then
    if isPresent "flag" entries then .empty
    else
      problem (type ++ " action missing 'flag' property in scene '" ++ scene ++ "'")
        "Add a 'flag' property to specify the flag name"
  else if type = "addToList" then
    if isPresent "list" entries && isPresent "item" entries then .empty
    else
      problem ("addToList action missing 'list' or 'item' property in scene '" ++ scene ++ "'")
        "Add both 'list' and 'item' properties"
  else if isNumber ((Entries.get? "minutes" entries).getD .null) then .empty
  else
    problem ("addTime action 'minutes' must be a number in scene '" ++ scene ++ "'")
      "Set 'minutes' to a numeric value"

/-- Checks one action. -/
def action (scene : String) (location : Location) (v : Value) : Report :=
  let entries : Entries := match v with
    | .mapping _ entries => entries
    | _ => []
  match Value.truthy? "type" entries with
  | none =>
    issue .syntaxRule (some location) ("Action missing 'type' in scene '" ++ scene ++ "'")
      "All actions must have a 'type' property"
  | some type =>
    let known := match type with
      | .text s => actionTypes.contains s
      | _ => false
    if known then actionOf scene type.display location entries
    else
      issue .syntaxRule (some location)
        ("Unknown action type '" ++ type.display ++ "' in scene '" ++ scene ++ "'")
        ("Use one of: " ++ Text.join ", " actionTypes)

/-- Checks the actions of an instruction. -/
def actions (scene : String) (location : Location) : Value → Report
  | .list _ items => .concat (items.map (action scene location))
  | _ =>
    issue .syntaxRule (some location) ("Actions in scene '" ++ scene ++ "' must be a list")
      "Convert actions to a YAML list"

/-- Characters of a variable's name after its first. -/
def isNameChar (c : Char) : Bool := Text.isAsciiAlnum c || c = '_' || c = '.'

/-- The first character of a variable's name. -/
def startsName (c : Char) : Bool := Text.isAsciiLetter c || c = '_'

/-- The words that compare. -/
def comparisons : List String := ["eq", "ne", "gt", "lt", "gte", "lte"]

/-- Whether the rest of a name, of any length, is followed by a comparing word. -/
def comparesAfter : List Char → Bool
  | [] => false
  | c :: cs =>
    (Helper.afterWord? comparisons ((c :: cs).dropWhile Text.isBlank)).isSome ||
      (isNameChar c && comparesAfter cs)

/-- Whether a condition asks for a flag or a choice or compares a variable, by the words for it. -/
def looksLikeCondition : List Char → Bool
  | [] => false
  | c :: cs =>
    (Helper.afterWord? ["hasFlag(", "playerChose("] (c :: cs)).isSome ||
      (startsName c && comparesAfter cs) || looksLikeCondition cs

/-- Checks a condition. -/
def condition (scene : String) (location : Location) : Value → Report
  | .text s =>
    if Text.isBlankText s then
      issue .syntaxRule (some location) ("Empty condition in scene '" ++ scene ++ "'")
        "Provide a valid condition expression"
    else if Text.contains s "=" && !looksLikeCondition s.toList then
      warning ("Condition in scene '" ++ scene ++ "' uses '=' - consider using 'eq' instead")
    else .empty
  | _ =>
    issue .syntaxRule (some location) ("Condition in scene '" ++ scene ++ "' must be a string")
      "Convert condition to a string expression"

/-- The condition of an instruction: under `condition`, else under `if`. -/
def conditionOf? (entries : Entries) : Option Value :=
  ((Entries.get? "condition" entries).or (Entries.get? "if" entries)).filter fun v =>
    match v with
    | .null => false
    | _ => true

/-- Checks an instruction apart from its branches. -/
def ownInstruction (scene : String) (location : Location) (entries : Entries) : Report :=
  let part (name : String) (check : Value → Report) : Report :=
    match Entries.get? name entries with
    | some v => check v
    | none => .empty
  part "choices" (choices scene location) ++ part "actions" (actions scene location) ++
    (match conditionOf? entries with
      | some v => condition scene location v
      | none => .empty)

mutual

/-- Checks an instruction; what stands in its branches counts as standing on its line. -/
def instruction (scene : String) (line : Nat) : Value → Report
  | .scalar (.text s) =>
    if Text.isBlankText s then
      warning ("Empty text instruction in scene '" ++ scene ++ "' at line " ++ toString line)
    else .empty
  | .mapping _ entries =>
    ownInstruction scene ⟨some scene, some line, none⟩ entries ++
      branch scene line "then" entries ++ branch scene line "else" entries
  | _ =>
    issue .syntaxRule (some ⟨some scene, some line, none⟩)
      ("Invalid instruction type in scene '" ++ scene ++ "' at line " ++ toString line)
      "Instructions must be strings or mappings"

/-- Checks the branch under a name. -/
def branch (scene : String) (line : Nat) (name : String) : List (Scalar × Value) → Report
  | [] => .empty
  | (k, .list _ items) :: rest =>
    if k.sameKey (.text name) then branchItems scene line items else branch scene line name rest
  | (k, _) :: rest =>
    if k.sameKey (.text name) then .empty else branch scene line name rest

def branchItems (scene : String) (line : Nat) : List Value → Report
  | [] => .empty
  | v :: rest => instruction scene line v ++ branchItems scene line rest

end

/-- Checks the content of a scene. -/
def sceneBody (name : String) : Value → Report
  | .list _ items =>
    if items.isEmpty then warning ("Scene '" ++ name ++ "' is empty")
    else .concat (items.zipIdx.map fun (v, index) => instruction name (index + 1) v)
  | _ =>
    issue .syntaxRule (some ⟨some name, none, none⟩)
      ("Scene '" ++ name ++ "' must be a list of instructions")
      "Convert scene content to a YAML list"

/-- Checks the scenes: first all names, then all contents. -/
def scenes (entries : Entries) : Report :=
  if entries.isEmpty then
    issue .syntaxRule none "No scenes defined" "Add at least one scene to your scenes section"
  else
    .concat (entries.map fun e => sceneName e.1.display) ++
      .concat (entries.map fun e => sceneBody e.1.display e.2)

/-! ### References -/

/-- A list without repetitions, in ascending order. -/
def sortedOnce (names : List String) : List String := Text.sort names.eraseDups

/-- The scenes that are led to from anywhere. -/
def allTargets (entries : Entries) : List String :=
  sortedOnce (entries.flatMap fun e => Instruction.sceneTargets e.2)

/-- The defined scenes that a scene leads to. -/
def links (entries : Entries) (name : String) : List String :=
  ((Entries.get? name entries).map Instruction.sceneTargets).getD [] |>.filter fun t =>
    Entries.has (.text t) entries

/-- The scenes where a story may start: those whose name hints at it, or else the first. -/
def starts (names : List String) : List String :=
  let hinted := names.filter fun n => startHints.any (Text.contains (Text.lower n))
  if hinted.isEmpty then names.take 1 else hinted

/-- The scenes that are reached from the start. -/
def reachable (entries : Entries) : List String :=
  let names := entries.map fun e => e.1.display
  Reach.gather (links entries) names.eraseDups (starts names)

/-- Checks the references between scenes. -/
def references (entries : Entries) : Report :=
  let undefined := (allTargets entries).filter fun t => !Entries.has (.text t) entries
  let reached := reachable entries
  let names := entries.map fun e => e.1.display
  .concat (undefined.map fun t =>
    issue .reference none ("Scene '" ++ t ++ "' is referenced but not defined")
      ("Create scene '" ++ t ++ "' or fix the reference")) ++
  .concat (names.map fun n =>
    if reached.contains n then .empty
    else warning ("Scene '" ++ n ++ "' may be unreachable from the starting scene"))

/-! ### Texts -/

/-- A text of a script: its scene, the line and the place in the instruction. -/
structure Passage where
  scene : String
  line : Nat
  context : String
  text : String

/-- The texts of the scenes that are lists, in order. -/
def passages (entries : Entries) : List Passage :=
  entries.flatMap fun e =>
    match e.2 with
    | .list _ items =>
      items.zipIdx.flatMap fun (v, index) =>
        (Instruction.texts false v).map fun t => ⟨e.1.display, index + 1, t.1, t.2⟩
    | _ => []

def Passage.location (p : Passage) : Option Location := some ⟨some p.scene, some p.line, none⟩

/-- Where a passage is, as messages say it. -/
def Passage.place (p : Passage) : String := "in scene '" ++ p.scene ++ "' " ++ p.context

/-- A name that a variable may have. -/
def isVariableName (name : String) : Bool :=
  match name.toList with
  | [] => false
  | c :: cs => startsName c && cs.all isNameChar

/-- Checks an input field. -/
def inputHelper (p : Passage) (h : InputHelper) : Report :=
  let kind := Text.lower (Text.trim h.kind)
  let name := if isVariableName (Text.trim h.variable_) then Report.empty
    else
      issue .template p.location
        ("Invalid variable name '" ++ h.variable_ ++ "' in input helper " ++ p.place)
        "Variable names must start with letter or underscore"
  let known := if kind.isEmpty || inputTypes.contains kind then Report.empty
    else
      issue .template p.location ("Unknown input type '" ++ h.kind ++ "' " ++ p.place)
        ("Use one of: " ++ Text.join ", " inputTypes)
  let single := if (kind = "select" || kind = "radio") && !Text.isBlankText h.options &&
      !Text.contains h.options "," then
      warning ("Input helper " ++ p.place ++ " has single option for " ++ kind ++ " type")
    else .empty
  name ++ known ++ single

/-- Checks the input fields. -/
def inputHelpers (entries : Entries) : Report :=
  .concat ((passages entries).flatMap fun p => (Helper.inputs p.text).map (inputHelper p))

/-- What has been looked up already, with the outcome of the checks so far. -/
structure ComponentCheck where
  checked : List String
  report : Report

/-- Looks a file of a component up, unless that was done before. -/
def componentFile (w : Workspace) (places : Lookup) (component : String) (c : ComponentCheck)
    (path : String) : Except LookupError ComponentCheck :=
  if path.isEmpty || c.checked.contains path then .ok c
  else
    match Lookup.find w path places with
    | .error e => .error e
    | .ok (.file _ _) => .ok { c with checked := path :: c.checked }
    | .ok (.missing _ _) =>
      .ok ⟨path :: c.checked, c.report ++
        warning ("Component file '" ++ path ++ "' for " ++ component ++ " could not be found")⟩

/-- Checks a directive. -/
def directive (w : Workspace) (places : Lookup) (c : ComponentCheck)
    (found : Passage × DirectiveToken) : Except LookupError ComponentCheck :=
  match found with
  | (p, .malformed text _) =>
    .ok ⟨c.checked, c.report ++
      issue .component p.location ("Malformed component directive " ++ p.place ++ ": " ++ text)
        "Use \x7b\x7bcomponent \"create\" \"Name\" \"script.js\" \"\" \"instanceId\" \"k=v\"\x7d\x7d"⟩
  | (_, .directive d) =>
    (d.script :: d.stylesheet.toList).foldlM (componentFile w places d.component) c

/-- Checks the component directives. -/
def components (w : Workspace) (places : Lookup) (entries : Entries) : Except LookupError Report :=
  let found := (passages entries).flatMap fun p => (Directive.find p.text).map fun t => (p, t)
  (found.foldlM (directive w places) ⟨[], .empty⟩).map (·.report)

/-- Counts the assets that texts refer to. -/
def assetReferences (entries : Entries) : Report :=
  let count := ((passages entries).flatMap fun p => Helper.assetNames p.text).eraseDups.length
  if count = 0 then .empty
  else
    warning ("Found " ++ toString count ++
      " asset references - ensure assets directory is provided during compilation")

/-! ### Scripts -/

/-- Checks a loaded script. Components are looked up from the place of the script, if it has one. -/
def value (w : Workspace) (script : Option Path) (v : Value) : Except LookupError Report :=
  match v with
  | .mapping _ entries =>
    match Entries.get? "scenes" entries with
    | some (.mapping _ sceneEntries) => do
      let places ← Lookup.usual w script
      let mounted ← components w places sceneEntries
      pure (structure_ v ++ scenes sceneEntries ++ references sceneEntries ++
        inputHelpers sceneEntries ++ mounted ++
        (if isPresent "assets" entries then assetReferences sceneEntries else .empty))
    | _ => .ok (structure_ v)
  | _ => .ok (structure_ v)

/-! ### What stops a check -/

/-- Why the messages about a loaded script cannot be made: one would show a number of too many
digits, or an instruction stands in a branch of its own, so that they have no end. -/
inductive Obstacle where
  | digits
  | endless
deriving DecidableEq

def Obstacle.message : Obstacle → String
  | .digits => overlongMessage
  | .endless => "maximum recursion depth exceeded"

/-- Whether a value that is shown holds a number of too many digits. -/
def isHidden (name : String) (entries : Entries) : Bool :=
  (Value.truthy? name entries).any Yaml.holdsUnwritable

/-- Whether a message about an asset would show a name that cannot be shown. The name of an asset is
shown unless its address is there and its type a usual one. -/
def hidesName : Value → Bool
  | .mapping _ entries =>
    isHidden "name" entries &&
      !((filledText? "url" entries).isSome && (filledText? "type" entries).any assetTypes.contains)
  | _ => false

/-- Whether the message about an action would show a type that cannot be shown. -/
def hidesType : Value → Bool
  | .mapping _ entries => isHidden "type" entries
  | _ => false

mutual

/-- What stops the check of an instruction; `path` are the labels of the instructions around it. -/
def instructionObstacle? (path : List Nat) : Value → Option Obstacle
  | .mapping label entries =>
    if label ≠ 0 && path.contains label then some .endless
    else if (Instruction.itemsAt "actions" entries).any hidesType then some .digits
    else
      (branchObstacle? (label :: path) "then" entries).or
        (branchObstacle? (label :: path) "else" entries)
  | .back label => if path.contains label then some .endless else none
  | _ => none

/-- What stops the check of the branch under a name. What stands there for a container around it is
an instruction, which is no branch, or else a list that the branch is in. -/
def branchObstacle? (path : List Nat) (name : String) : List (Scalar × Value) → Option Obstacle
  | [] => none
  | (k, .list _ items) :: rest =>
    if k.sameKey (.text name) then itemsObstacle? path items else branchObstacle? path name rest
  | (k, .back label) :: rest =>
    if k.sameKey (.text name) then (if path.contains label then none else some .endless)
    else branchObstacle? path name rest
  | (k, _) :: rest =>
    if k.sameKey (.text name) then none else branchObstacle? path name rest

def itemsObstacle? (path : List Nat) : List Value → Option Obstacle
  | [] => none
  | v :: rest => (instructionObstacle? path v).or (itemsObstacle? path rest)

end

/-- What stops the check of a scene. -/
def sceneObstacle? : Value → Option Obstacle
  | .list _ items => itemsObstacle? [] items
  | _ => none

/-- What stops the check of scenes: first all names are shown, then all contents are checked. -/
def scenesObstacle? (entries : Entries) : Option Obstacle :=
  if entries.any fun e => Yaml.isUnwritable e.1 then some .digits
  else entries.findSome? fun e => sceneObstacle? e.2

/-- What stops the check of a loaded script. -/
def obstacle? : Value → Option Obstacle
  | .mapping _ entries =>
    if (Instruction.itemsAt "assets" entries).any hidesName then some .digits
    else
      match Entries.get? "scenes" entries with
      | some (.mapping _ sceneEntries) => scenesObstacle? sceneEntries
      | _ => none
  | _ => none

/-- Why a script cannot be checked. -/
inductive CheckError where
  | scalar (e : Yaml.ScalarError)
  | obstacle (o : Obstacle)
  | lookup (e : LookupError)
  | file (e : TextFileError)

def CheckError.message : CheckError → String
  | .scalar e => e.message
  | .obstacle o => o.message
  | .lookup e => e.message
  | .file e => e.message

/-- Checks a loaded script, unless its messages cannot be made. -/
def loaded (w : Workspace) (script : Option Path) (v : Value) : Except CheckError Report :=
  match obstacle? v with
  | some o => .error (.obstacle o)
  | none => (value w script v).mapError .lookup

/-- The report on a text that is not YAML. -/
def refused (r : Yaml.Refusal) : Report :=
  issue .syntaxRule (some ⟨none, r.mark.map (·.line + 1), r.mark.map (·.column + 1)⟩)
    ("YAML syntax error: " ++ r.message) "Check indentation, quotes, and YAML structure"

/-- Checks the text of a script. -/
def text (w : Workspace) (script : Option Path) (content : String) : Except CheckError Report :=
  match Yaml.load content with
  | .error (.refused r) => .ok (refused r)
  | .error (.scalar e) => .error (.scalar e)
  | .ok v => loaded w script v

/-- Checks the script in a file. -/
def file (w : Workspace) (path : Path) : Except CheckError Report :=
  match w.readText path with
  | .error e => .error (.file e)
  | .ok content => text w (some path) content

end Storybind.Check
