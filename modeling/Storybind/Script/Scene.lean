import Storybind.Yaml.Dump
import Storybind.Yaml.Load

/-!
Scenes: a name and the instructions under it. A text holds a mapping from names to instructions; a
blank text holds no scenes. A book of scenes keeps what was last loaded without an error.
-/

namespace Storybind

/-- A scene of a story. -/
structure Scene where
  name : String
  instructions : List Value

/-- Why a text holds no scenes. -/
inductive SceneError where
  | yaml (e : Yaml.LoadError)
  | notMapping
  | raised (text : String)

def SceneError.message : SceneError → String
  | .yaml e => e.message
  | .notMapping => "scenes must be a mapping of scene name to instructions"
  | .raised text => text

namespace Scene

/-- The instructions under a name: nothing is no instruction, and what is no list is one
instruction. -/
def instructionsOf : Value → List Value
  | .null => []
  | .list _ items => items
  | v => [v]

/-- The scenes of a mapping, one for each key, in order. -/
def ofEntries (entries : Entries) : List Scene :=
  entries.map fun e => ⟨e.1.display, instructionsOf e.2⟩

/-- The scenes of a loaded value. A number of too many digits has no text, so it names no scene. -/
def ofValue : Value → Except SceneError (List Scene)
  | .null => .ok []
  | .mapping _ entries =>
    if entries.any fun e => Yaml.isUnwritable e.1 then .error (.raised overlongMessage)
    else .ok (ofEntries entries)
  | _ => .error .notMapping

/-- The scenes of a text. -/
def load (text : String) : Except SceneError (List Scene) :=
  if Text.isBlankText text then .ok []
  else
    match Yaml.load text with
    | .error e => .error (.yaml e)
    | .ok v => ofValue v

/-- The instructions that a value holds where it stands for a list of them; `none` if it has no
items. -/
def itemsOf? : Value → Option (List Value)
  | .list _ items => some items
  | .mapping _ entries => some (entries.map fun e => .scalar e.1)
  | .set _ members => some (members.map .scalar)
  | .pair a b => some [a, b]
  | .text s => some (s.toList.map fun c => .text (String.singleton c))
  | v => if v.isTruthy then none else some []

/-- The scene that a record describes, if it is one. A record whose instructions have no items is
refused with their value. -/
def ofRecord? : Value → Except Value (Option Scene)
  | .mapping _ entries =>
    let name := ((Entries.get? "name" entries).map Value.display).getD ""
    let instructions := (Entries.get? "instructions" entries).getD .null
    match itemsOf? instructions with
    | some items => .ok (some ⟨name, items⟩)
    | none => .error instructions
  | _ => .ok none

/-- The scenes that records describe; anything but a record is passed over. -/
def ofRecords (records : List Value) : Except Value (List Scene) :=
  (records.mapM ofRecord?).map fun scenes => scenes.filterMap id

/-- A scene as a record. -/
def toRecord (s : Scene) : Value :=
  .record [("name", .text s.name), ("instructions", .ofList s.instructions)]

end Scene

/-- The scenes that were last loaded without an error. -/
structure SceneBook where
  scenes : List Scene

namespace SceneBook

def empty : SceneBook := ⟨[]⟩

/-- Loads a text; one that holds no scenes leaves the book as it is. -/
def load (text : String) (book : SceneBook) : Option SceneError × SceneBook :=
  match Scene.load text with
  | .error e => (some e, book)
  | .ok scenes => (none, ⟨scenes⟩)

/-- Loads texts one after another. -/
def loadAll (texts : List String) (book : SceneBook) : SceneBook :=
  texts.foldl (fun b t => (b.load t).2) book

end SceneBook
end Storybind
