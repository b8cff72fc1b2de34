import Storybind.Value.Key

/-!
What an instruction holds: its texts, in the fields that show text, in its choices and in its
branches, and the scenes that it leads to. An instruction is a text or a mapping; anything else
holds nothing.
-/

namespace Storybind.Instruction

/-- The fields that show text. -/
def textFields : List String := ["say", "text", "content", "message", "speaker"]

/-- The fields that name a scene to go to. -/
def targetFields : List String := ["goto", "jump"]

/-- The text under a name. -/
def textAt? (name : String) (entries : Entries) : Option String :=
  match Entries.get? name entries with
  | some (.text s) => some s
  | _ => none

/-- The items of a list under a name. -/
def itemsAt (name : String) (entries : Entries) : List Value :=
  match Entries.get? name entries with
  | some (.list _ items) => items
  | _ => []

/-- A text field of a choice. -/
def choiceField? (name : String) : Value → Option String
  | .mapping _ entries => textAt? name entries
  | _ => none

/-- The texts in the fields of an instruction, each with the name of its field. -/
def fieldTexts (entries : Entries) : List (String × String) :=
  textFields.filterMap fun name => (textAt? name entries).map fun s => (name, s)

/-- The texts of choices, numbered from one. -/
def choiceTexts : Nat → List Value → List (String × String)
  | _, [] => []
  | number, choice :: rest =>
    match choiceField? "text" choice with
    | some s => ("choice " ++ toString number, s) :: choiceTexts (number + 1) rest
    | none => choiceTexts (number + 1) rest

/-- The texts of an instruction outside its branches, each with the place it stands in. -/
def ownTexts (entries : Entries) : List (String × String) :=
  fieldTexts entries ++ choiceTexts 1 (itemsAt "choices" entries)

mutual

/-- The texts that are shown by an instruction, each with the place it stands in. With `loose` a
branch may also be a single instruction, otherwise it must be a list. -/
def texts (loose : Bool) : Value → List (String × String)
  | .scalar (.text s) => [("text", s)]
  | .mapping _ entries =>
    ownTexts entries ++ branchTexts loose "then" entries ++ branchTexts loose "else" entries
  | _ => []

/-- The texts of the branch under a name. -/
def branchTexts (loose : Bool) (name : String) : List (Scalar × Value) → List (String × String)
  | [] => []
  | (k, .list _ items) :: rest =>
    if k.sameKey (.text name) then itemTexts loose items else branchTexts loose name rest
  | (k, v) :: rest =>
    if k.sameKey (.text name) then (if loose then texts loose v else [])
    else branchTexts loose name rest

def itemTexts (loose : Bool) : List Value → List (String × String)
  | [] => []
  | v :: rest => texts loose v ++ itemTexts loose rest

end

/-- The scenes that the fields and choices of an instruction lead to. -/
def ownTargets (entries : Entries) : List String :=
  targetFields.filterMap (textAt? · entries) ++
    (itemsAt "choices" entries).filterMap (choiceField? "goto")

mutual

/-- The scenes that an instruction leads to, those in its list branches included. -/
def targets : Value → List String
  | .mapping _ entries =>
    ownTargets entries ++ branchTargets "then" entries ++ branchTargets "else" entries
  | _ => []

def branchTargets (name : String) : List (Scalar × Value) → List String
  | [] => []
  | (k, .list _ items) :: rest =>
    if k.sameKey (.text name) then itemTargets items else branchTargets name rest
  | (k, _) :: rest => if k.sameKey (.text name) then [] else branchTargets name rest

def itemTargets : List Value → List String
  | [] => []
  | v :: rest => targets v ++ itemTargets rest

end

/-- The scenes that the instructions of a scene lead to. -/
def sceneTargets : Value → List String
  | .list _ items => itemTargets items
  | _ => []

end Storybind.Instruction
