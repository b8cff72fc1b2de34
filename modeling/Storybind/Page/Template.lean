import Storybind.Page.Guard

/-!
Templates: text with slots, which are names in capitals between two pairs of braces. Filling goes
through the template once; what is put into a slot is not looked at again, and a slot of an unknown
name becomes empty.
-/

namespace Storybind.Page.Template

/-- A character that a slot's name starts with. -/
def isCapital (c : Char) : Bool := 'A' ≤ c && c ≤ 'Z'

/-- A character of a slot's name. -/
def isNameChar (c : Char) : Bool := isCapital c || Text.isAsciiDigit c || c = '_'

/-- The name of the slot at the start of a text. -/
def slot? (s : List Char) : Option (List Char) :=
  match Text.after? ['\x7b', '\x7b'] s with
  | some (c :: cs) =>
    let name := c :: cs.takeWhile isNameChar
    match isCapital c, cs.dropWhile isNameChar with
    | true, '\x7d' :: '\x7d' :: _ => some name
    | _, _ => none
  | _ => none

/-- A slot with its braces. -/
def written (name : String) : String := "\x7b\x7b" ++ name ++ "\x7d\x7d"

/-- Fills slots, `skip` characters of the last one being still to pass over. -/
def fillFrom (content : List Char → List Char) : Nat → List Char → List Char
  | _, [] => []
  | skip + 1, _ :: cs => fillFrom content skip cs
  | 0, c :: cs =>
    match slot? (c :: cs) with
    | some name => content name ++ fillFrom content (name.length + 3) cs
    | none => c :: fillFrom content 0 cs

/-- The content of a slot: a value, else a guarded script, else nothing. -/
def contentOf (values scripts : List (String × String)) (name : List Char) : List Char :=
  let name := String.ofList name
  match values.lookup name with
  | some v => v.toList
  | none =>
    match scripts.lookup name with
    | some s => guardChars s.toList
    | none => []

/-- The template with its slots filled. -/
def fill (template : String) (values scripts : List (String × String)) : String :=
  String.ofList (fillFrom (contentOf values scripts) 0 template.toList)

end Storybind.Page.Template
