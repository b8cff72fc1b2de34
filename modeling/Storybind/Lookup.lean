import Storybind.Volume

/-!
Looking a file up: an absolute path stands for itself, a relative one is tried below a list of named
base directories, and the first that has the file wins. Addresses of the web are never looked up.
-/

namespace Storybind

/-- A base directory: a fixed one, the working directory of the moment, or none. -/
inductive Base where
  | directory (p : Path)
  | working
  | absent

/-- A base directory with the name that answers give it. -/
structure Place where
  name : String
  base : Base

/-- The places where a relative path is looked for, in order. -/
abbrev Lookup := List Place

/-- What a look-up finds. -/
inductive Found where
  | file (path : Path) (place : String)
  | missing (requested : String) (tried : List String)

/-- Why a path cannot be looked up at all. -/
inductive LookupError where
  | homeUnknown
  | nulInPath
  | file (e : FileError)
deriving DecidableEq

def LookupError.message : LookupError → String
  | .homeUnknown => "Could not determine home directory."
  | .nulInPath => FileFault.nulInName.message
  | .file e => e.message

/-- Whether a text is an address of the web. -/
def isWebAddress (s : String) : Bool :=
  Text.startsWith s "http://" || Text.startsWith s "https://"

namespace Lookup

/-- The full path without `..`, refused if the path holds a NUL character. -/
def fullPath (w : Workspace) (p : Path) : Except LookupError Path :=
  if p.toText.toList.contains '\x00' then .error .nulInPath else .ok (w.resolve p)

/-- The directory of a base, as the working directory stands now. -/
def baseDirectory? (w : Workspace) : Base → Option Path
  | .directory p => some p
  | .working => some w.cwd
  | .absent => none

/-- Tries the places in order; `tried` are the paths looked at before. -/
def search (w : Workspace) (requested : String) (candidate : Path) :
    List String → Lookup → Except LookupError Found
  | tried, [] => .ok (.missing requested tried)
  | tried, place :: rest =>
    match baseDirectory? w place.base with
    | none => search w requested candidate tried rest
    | some base =>
      match fullPath w (base ++ candidate) with
      | .error e => .error e
      | .ok full =>
        match w.isFile full with
        | .error e => .error (.file e)
        | .ok true => .ok (.file full place.name)
        | .ok false => search w requested candidate (tried ++ [full.toText]) rest

/-- Looks a path up. -/
def find (w : Workspace) (requested : String) (places : Lookup) : Except LookupError Found :=
  if requested.isEmpty || isWebAddress requested then .ok (.missing requested [])
  else
    match w.expandHome? (Path.ofString requested) with
    | none => .error .homeUnknown
    | some candidate =>
      if candidate.isAbsolute then
        match w.isFile candidate with
        | .error e => .error (.file e)
        | .ok true => .ok (.file candidate "absolute")
        | .ok false => .ok (.missing requested [candidate.toText])
      else search w requested candidate [] places

/-- The usual places: beside the script if there is one, beside the program, in the working
directory. -/
def usual (w : Workspace) (script : Option Path) : Except LookupError Lookup := do
  let beside ← match script with
    | none => pure []
    | some p => do
      let full ← fullPath w p
      pure [⟨"script_dir", .directory full.parent⟩]
  pure (beside ++ [⟨"executable_dir", .directory w.programDirectory⟩, ⟨"cwd", .working⟩])

end Lookup
end Storybind
