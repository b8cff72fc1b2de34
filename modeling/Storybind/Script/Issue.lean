/-!
What checking a script brings to light: issues, which make the script invalid, and warnings, which
do not.
-/

namespace Storybind

/-- What an issue is about. -/
inductive IssueKind where
  | syntaxRule
  | reference
  | asset
  | template
  | component
deriving DecidableEq, Repr

def IssueKind.word : IssueKind → String
  | .syntaxRule => "syntax"
  | .reference => "reference"
  | .asset => "asset"
  | .template => "template"
  | .component => "component"

/-- Where an issue is, as far as that is known. Lines of a scene are its instructions, counted from
one. -/
structure Location where
  scene : Option String
  line : Option Nat
  column : Option Nat
deriving DecidableEq, Repr

/-- An issue, with a suggestion what to do about it. -/
structure Issue where
  kind : IssueKind
  message : String
  location : Option Location
  suggestion : String
deriving DecidableEq, Repr

/-- The outcome of checks. -/
structure Report where
  issues : List Issue
  warnings : List String
deriving DecidableEq, Repr

namespace Report

def empty : Report := ⟨[], []⟩

/-- A script is valid if no issue was found. -/
def isValid (r : Report) : Bool := r.issues.isEmpty

def append (a b : Report) : Report := ⟨a.issues ++ b.issues, a.warnings ++ b.warnings⟩

instance : Append Report := ⟨append⟩

/-- The outcomes of several checks, in order. -/
def concat (rs : List Report) : Report := rs.foldr append empty

/-- A single issue. -/
def issue (kind : IssueKind) (location : Option Location) (message suggestion : String) : Report :=
  ⟨[⟨kind, message, location, suggestion⟩], []⟩

/-- A single warning. -/
def warning (message : String) : Report := ⟨[], [message]⟩

/-- A report that is made only on a condition. -/
def unless_ (condition : Bool) (r : Report) : Report := if condition then empty else r

end Report
end Storybind
