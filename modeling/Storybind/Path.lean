import Storybind.Text.Pieces

/-!
Paths. A path is an anchor, empty for a relative one, and the names after it; empty names and `.`
are dropped when a path is read, `..` is kept. What a path leads to is for `Volume`.
-/

namespace Storybind

/-- A path: the slashes it starts with, and its names. -/
structure Path where
  anchor : String
  names : List String
deriving DecidableEq, Repr

namespace Path

/-- Reads a path. Exactly two slashes at the start are kept apart from one. -/
def ofString (s : String) : Path :=
  let cs := s.toList
  let slashes := (cs.takeWhile (· = '/')).length
  let anchor := if slashes = 0 then "" else if slashes = 2 then "//" else "/"
  ⟨anchor, (Text.split '/' s).filter fun n => n ≠ "" && n ≠ "."⟩

def isAbsolute (p : Path) : Bool := p.anchor ≠ ""

/-- The text of a path; the empty relative path is `.`. -/
def toText (p : Path) : String :=
  if p.anchor = "" && p.names.isEmpty then "." else p.anchor ++ Text.join "/" p.names

/-- The path that leads to `q` from `p`. -/
def append (p q : Path) : Path := if q.isAbsolute then q else ⟨p.anchor, p.names ++ q.names⟩

instance : HAppend Path Path Path := ⟨append⟩

/-- The path with further names read from a text. -/
def child (p : Path) (s : String) : Path := p ++ ofString s

/-- The last name. -/
def name (p : Path) : String := p.names.getLast?.getD ""

/-- The path without its last name. -/
def parent (p : Path) : Path := ⟨p.anchor, p.names.dropLast⟩

/-- The last point of a name that has something on both sides. -/
def cutSuffix? (name : String) : Option (String × String) :=
  match Text.cutAtLast? '.' name.toList with
  | some (stem, ext) =>
    if stem.isEmpty || ext.isEmpty then none
    else some (String.ofList stem, String.ofList ('.' :: ext))
  | none => none

/-- The extension of the last name, with its point; empty if there is none. -/
def suffix (p : Path) : String := ((cutSuffix? p.name).map (·.2)).getD ""

/-- The path without the extension of its last name. -/
def withoutSuffix (p : Path) : Path :=
  match cutSuffix? p.name with
  | some (stem, _) => ⟨p.anchor, p.names.dropLast ++ [stem]⟩
  | none => p

/-- Names with every `..` resolved against the name before it. -/
def normalNames (names : List String) : List String :=
  names.foldl (fun done n => if n = ".." then done.dropLast else done ++ [n]) []

/-- The absolute path without `..` that a path denotes from a directory. -/
def resolve (cwd p : Path) : Path :=
  ⟨"/", normalNames (cwd ++ p).names⟩

/-- Whether a path is a directory or lies below it, name by name. -/
def isWithin (root p : Path) : Bool := root.anchor = p.anchor && root.names.isPrefixOf p.names

/-- The names of a path after those of a directory it lies below. -/
def relativeTo (root p : Path) : Path := ⟨"", p.names.drop root.names.length⟩

/-- Order of paths: by anchor, then name by name in code point order. -/
def namesLe : List String → List String → Bool
  | [], _ => true
  | _ :: _, [] => false
  | a :: as, b :: bs => if a = b then namesLe as bs else Text.le a b

end Path
end Storybind
