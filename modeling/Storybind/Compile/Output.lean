import Storybind.Volume

/-!
Saving a document: it is written to a temporary file beside its place and then moved there, so that
at every moment the place holds what it held before or the whole document. If a step is refused the
temporary file is removed.
-/

namespace Storybind.Output

/-- The steps of saving. -/
inductive Step where
  | directories
  | temporary
  | content
  | move
deriving DecidableEq, Repr

/-- How a file system carries out a save: what it refuses although the volume would allow it, how many
directories it makes before it refuses to make them, and the lengths of the pieces that it writes
before the rest of the content, or before it refuses to write. -/
structure Refusals where
  refused : Step → Option FileFault
  made : Nat
  pieces : List Nat

/-- Nothing is refused. -/
def noRefusals : Refusals := ⟨fun _ => none, 0, []⟩

/-- The name of a temporary file; `mark` tells it from other files. -/
def temporaryName (mark name : String) : String := "." ++ name ++ "." ++ mark ++ ".tmp"

/-- The number of names that are tried for a temporary file. -/
def maxTries : Nat := 10000

/-- A name for a temporary file that no other file has, if one of so many is free. -/
def freeName (v : Volume) (directory : List String) (name : String) : Nat → String → String
  | 0, mark => temporaryName mark name
  | tries + 1, mark =>
    if (v.find? (directory ++ [temporaryName mark name])).isSome then
      freeName v directory name tries (mark ++ "_")
    else temporaryName mark name

/-- The path of the temporary file. -/
def temporaryPath (mark : String) (cwd target : Path) (v : Volume) : Path :=
  let directory := Path.resolve cwd target.parent
  ⟨directory.anchor, directory.names ++ [freeName v directory.names target.name maxTries mark]⟩

/-- A step, unless it is refused. -/
def step (r : Refusals) (s : Step) (p : Path) (v : Volume) (run : Except FileError Volume) : Course :=
  .single v (match r.refused s with
    | some fault => .error ⟨fault, p.toText, none⟩
    | none => run)

/-- Makes the directory that is to hold a file. -/
def makeParent (r : Refusals) (cwd target : Path) (v : Volume) : Course :=
  let course := v.makeDirectory cwd target.parent
  match r.refused .directories with
  | some fault =>
    { course with
      later := course.later.take r.made
      refusal := some ⟨fault, target.parent.toText, none⟩ }
  | none => course

/-- The beginnings of content after so much of it, up to the end of each piece. -/
def beginnings (content : Bytes) : Nat → List Nat → List Bytes
  | _, [] => []
  | written, n :: rest => content.take (written + n) :: beginnings content (written + n) rest

/-- Writes content to a file that is open. -/
def fill (r : Refusals) (temporary : Path) (content : Bytes) (v : Volume) : Course :=
  let holding (bytes : Bytes) : Volume := v.put temporary.names (.file bytes)
  let pieces := (beginnings content 0 r.pieces).map holding
  match r.refused .content with
  | some fault => ⟨v, pieces, some ⟨fault, temporary.toText, none⟩⟩
  | none => ⟨v, pieces ++ [holding content], none⟩

/-- Removes the temporary file after a refusal. -/
def tidied (temporary : Path) (course : Course) : Course :=
  match course.refusal with
  | some _ => { course with later := course.later ++ [course.final.erase temporary.names] }
  | none => course

/-- Fills a temporary file and moves it to its place. -/
def deliver (r : Refusals) (cwd temporary target : Path) (content : Bytes) (v : Volume) : Course :=
  tidied temporary ((fill r temporary content v).andThen fun v =>
    step r .move temporary v (v.replace cwd temporary target))

/-- Saves a document. -/
def save (r : Refusals) (mark : String) (v : Volume) (cwd target : Path) (content : Bytes) : Course :=
  (makeParent r cwd target v).andThen fun v =>
    let temporary := temporaryPath mark cwd target v
    (step r .temporary temporary v (v.create cwd temporary)).andThen
      (deliver r cwd temporary target content)

end Storybind.Output
