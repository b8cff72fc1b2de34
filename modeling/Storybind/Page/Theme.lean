import Storybind.Text.Pieces
import Storybind.Value.Display
import Storybind.Value.Key

/-!
Themes: named lists of style variables. A style sheet refers to a variable as `var(--name)`;
applying a theme puts the variable's value there, in one pass, and keeps references to other
variables.
-/

namespace Storybind

/-- A theme: its name, its label and its properties, whose names start with two hyphens. -/
structure Theme where
  name : String
  label : String
  properties : List (String × String)
deriving DecidableEq, Repr

namespace Theme

/-- White on dark red. -/
def base : Theme :=
  ⟨"base", "Crimson Night", [("--primary-color", "#e92932"), ("--primary-dark", "#d11d26"),
    ("--secondary-color", "#472426"), ("--background-color", "#221112"),
    ("--text-color", "#ffffff"), ("--text-muted", "#a0aec0"), ("--border-color", "#3c2328"),
    ("--accent-color", "#e92932")]⟩

/-- Dark on paper. -/
def light : Theme :=
  ⟨"light", "Paper", [("--primary-color", "#2b6cb0"), ("--primary-dark", "#2c5282"),
    ("--secondary-color", "#e2e8f0"), ("--background-color", "#f7fafc"),
    ("--text-color", "#1a202c"), ("--text-muted", "#4a5568"), ("--border-color", "#cbd5e0"),
    ("--accent-color", "#d69e2e")]⟩

/-- Light on slate. -/
def modern : Theme :=
  ⟨"modern", "Slate", [("--primary-color", "#6366f1"), ("--primary-dark", "#4f46e5"),
    ("--secondary-color", "#1e293b"), ("--background-color", "#0f172a"),
    ("--text-color", "#f1f5f9"), ("--text-muted", "#94a3b8"), ("--border-color", "#334155"),
    ("--accent-color", "#22d3ee")]⟩

/-- The themes there are. -/
def all : List Theme := [base, light, modern]

/-- The theme of a name, the first one if there is no such theme. -/
def named (name : String) : Theme := (all.find? fun t => t.name = name).getD base

/-- The theme that the metadata of a story ask for under its styles, else the one the caller asks
for, else the usual one. -/
def choose (metadata : Entries) (fallback : Option String) (usual : String) : Theme :=
  let asked := match Entries.get? "styles" metadata with
    | some (.mapping _ styles) => Value.truthy? "theme" styles
    | _ => none
  let orElse (s t : String) : String := if s.isEmpty then t else s
  named (match asked with
    | some v => v.display
    | none => orElse (fallback.getD "") (orElse usual "base"))

/-- The properties of a theme as a style rule. -/
def rule (t : Theme) : String :=
  ":root \x7b\n" ++ Text.join "\n" (t.properties.map fun v => "  " ++ v.1 ++ ": " ++ v.2 ++ ";") ++
    "\n\x7d"

/-- A character of a variable's name. -/
def isNameChar (c : Char) : Bool := Text.isAsciiAlnum c || c = '_' || c = '-'

/-- The reference to a variable at the start of a text: the variable's name and the length of the
reference. -/
def reference? (s : List Char) : Option (List Char × Nat) := do
  let inner ← Text.after? "var(".toList s
  let blanks := inner.takeWhile Text.isBlank
  let inner := inner.drop blanks.length
  let name := inner.takeWhile isNameChar
  let more := (inner.drop name.length).takeWhile Text.isBlank
  match name, inner.drop (name.length + more.length) with
  | '-' :: '-' :: _ :: _, ')' :: _ => some (name, 5 + blanks.length + name.length + more.length)
  | _, _ => none

/-- Puts values for references, `skip` characters of the last one being still to pass over. -/
def applyFrom (t : Theme) : Nat → List Char → List Char
  | _, [] => []
  | skip + 1, _ :: cs => applyFrom t skip cs
  | 0, c :: cs =>
    match reference? (c :: cs) with
    | none => c :: applyFrom t 0 cs
    | some (name, length) =>
      match t.properties.lookup (String.ofList name) with
      | some value => value.toList ++ applyFrom t (length - 1) cs
      | none => c :: applyFrom t 0 cs

/-- A style sheet with the values of a theme for its variables. -/
def apply (t : Theme) (css : String) : String := String.ofList (applyFrom t 0 css.toList)

end Theme
end Storybind
