import Storybind.Number.Reading
import Storybind.Text.Case
import Storybind.Value.Key

/-!
Mount directives in text: two braces, `component "create"` and five quoted fields, the component's
name, its script, its stylesheet, the name of the instance and its settings, then two closing
braces. Text that starts like a directive and does not go on like one is reported with its extent.
-/

namespace Storybind

/-- A directive that mounts a component. -/
structure Directive where
  component : String
  script : String
  stylesheet : Option String
  instanceName : String
  settings : String
  start : Nat
deriving DecidableEq, Repr

/-- Text that starts like a directive. -/
inductive DirectiveToken where
  | directive (d : Directive)
  | malformed (text : String) (start : Nat)
deriving DecidableEq, Repr

namespace Directive

/-- Either quote. -/
def isQuote (c : Char) : Bool := c = '\x22' || c = '\x27'

/-- The braces before and after a directive. -/
def opening : List Char := ['\x7b', '\x7b']

def closing : List Char := ['\x7d', '\x7d']

/-- What follows at least one blank. -/
def afterBlanks? : List Char → Option (List Char)
  | c :: cs => if Text.isBlank c then some (cs.dropWhile Text.isBlank) else none
  | [] => none

/-- What follows a quote. -/
def afterQuote? : List Char → Option (List Char)
  | c :: cs => if isQuote c then some cs else none
  | [] => none

/-- What follows the start of a directive. -/
def afterStart? (s : List Char) : Option (List Char) := do
  let s ← Text.after? opening s
  let s ← Text.after? "component".toList (s.dropWhile Text.isBlank)
  let s ← afterBlanks? s
  let s ← afterQuote? s
  let s ← Text.after? "create".toList s
  afterQuote? s

/-- A quoted field and what follows it. -/
def field? (s : List Char) : Option (List Char × List Char) := do
  let s ← afterQuote? s
  let body := s.takeWhile fun c => !isQuote c
  let rest ← afterQuote? (s.dropWhile fun c => !isQuote c)
  pure (body, rest)

/-- A quoted field that is not empty, and what follows it. -/
def filledField? (s : List Char) : Option (List Char × List Char) :=
  (field? s).filter fun r => !r.1.isEmpty

/-- A stylesheet field: empty and `null` in any letter case stand for none. -/
def stylesheetOf (field : List Char) : Option String :=
  let s := Text.trim (String.ofList field)
  if s.isEmpty || Text.lower s = "null" then none else some s

/-- The directive after its start, which stands at a position of the text. -/
def read? (start : Nat) (s : List Char) : Option Directive := do
  let s ← afterBlanks? s
  let (component, s) ← filledField? s
  let s ← afterBlanks? s
  let (script, s) ← filledField? s
  let s ← afterBlanks? s
  let (style, s) ← field? s
  let s ← afterBlanks? s
  let (name, s) ← filledField? s
  let s ← afterBlanks? s
  let (settings, s) ← field? s
  let _ ← Text.after? closing (s.dropWhile Text.isBlank)
  let plain (cs : List Char) : String := Text.trim (String.ofList cs)
  pure ⟨plain component, plain script, stylesheetOf style, plain name, plain settings, start⟩

/-- The text up to and with the next closing braces, or all of it. -/
def extent (s : List Char) : List Char :=
  match Text.cutAt? closing s with
  | some (before, _) => before ++ closing
  | none => s

/-- The token of a text that starts like a directive. -/
def tokenAt? (start : Nat) (s : List Char) : Option DirectiveToken :=
  (afterStart? s).map fun rest =>
    match read? start rest with
    | some d => .directive d
    | none => .malformed (String.ofList (extent s)) start

/-- The tokens of the text from a position on. -/
def findFrom (position : Nat) : List Char → List DirectiveToken
  | [] => []
  | c :: cs =>
    match tokenAt? position (c :: cs) with
    | some t => t :: findFrom (position + 1) cs
    | none => findFrom (position + 1) cs

/-- The tokens of a text, in order. Two starts never overlap, so every position is looked at. -/
def find (text : String) : List DirectiveToken := findFrom 0 text.toList

end Directive

/-- The value that a setting's text denotes: a truth value, a whole number, a decimal, or the text
itself. -/
def settingValue (text : String) : Except DigitLimit Value :=
  let line := match text.toList.reverse with
    | '\n' :: r => r.reverse
    | _ => text.toList
  let digits := match line with
    | '-' :: r => r
    | r => r
  let whole := digits.takeWhile Text.isDigit
  if text = "true" then .ok (.bool true)
  else if text = "false" then .ok (.bool false)
  else if !digits.isEmpty && digits.all Text.isDigit then
    match readInt line with
    | .ok n => .ok (.int n)
    | .error (.tooManyDigits n) => .error ⟨n⟩
    | .error .malformed => .ok (.text text)
  else
    match digits.drop whole.length with
    | '.' :: part =>
      if !part.isEmpty && part.all Text.isDigit then
        .ok (match readFloat? line with
          | some x => .float x
          | none => .text text)
      else .ok (.text text)
    | _ => .ok (.text text)

/-- The settings of an instance, and the pieces that are none. -/
structure MountSettings where
  values : Entries
  skipped : List String

namespace MountSettings

/-- Takes in one piece: a name, an equals sign and a value. -/
def take (piece : String) (s : MountSettings) : Except DigitLimit MountSettings :=
  let trimmed := Text.trim piece
  if trimmed.isEmpty then .ok s
  else
    match Text.cutAt? ['='] piece.toList with
    | none => .ok { s with skipped := s.skipped ++ [trimmed] }
    | some (name, value) =>
      let name := Text.trimChars name
      if name.isEmpty then .ok { s with skipped := s.skipped ++ [trimmed] }
      else
        (settingValue (Text.trim (String.ofList value))).map fun v =>
          { s with values := Entries.set (String.ofList name) v s.values }

/-- Reads settings separated by commas. -/
def read (text : String) : Except DigitLimit MountSettings :=
  (Text.split ',' text).foldlM (fun s piece => s.take piece) ⟨[], []⟩

end MountSettings
end Storybind
