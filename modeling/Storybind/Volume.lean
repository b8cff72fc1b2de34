import Storybind.Path
import Storybind.Text.Utf8
import Storybind.Value.Display

/-!
A volume: the files and directories a compile can see. Every directory on the way to an entry is an
entry itself. The operations refuse what a file system refuses, and a refused operation changes
nothing.
-/

namespace Storybind

inductive Entry where
  | file (content : Bytes)
  | directory
deriving DecidableEq, Repr

/-- The entries below the root, by their names from the root. -/
structure Volume where
  entries : List (List String × Entry)

/-- Why an operation on files is refused. -/
inductive FileFault where
  | notFound
  | exists
  | notDirectory
  | isDirectory
  | nameTooLong
  | busy
  | noSpace
  | nulInName
deriving DecidableEq, Repr

/-- The name of a fault, as reports of failed attempts give it. -/
def FileFault.name : FileFault → String
  | .notFound => "FileNotFoundError"
  | .exists => "FileExistsError"
  | .notDirectory => "NotADirectoryError"
  | .isDirectory => "IsADirectoryError"
  | .nameTooLong | .busy | .noSpace => "OSError"
  | .nulInName => "ValueError"

/-- A refusal, with the path as it was given, and the path a file was to be renamed to. -/
structure FileError where
  fault : FileFault
  path : String
  target : Option String
deriving DecidableEq, Repr

def FileFault.message : FileFault → String
  | .notFound => "[Errno 2] No such file or directory"
  | .exists => "[Errno 17] File exists"
  | .notDirectory => "[Errno 20] Not a directory"
  | .isDirectory => "[Errno 21] Is a directory"
  | .nameTooLong => "[Errno 36] File name too long"
  | .busy => "[Errno 16] Device or resource busy"
  | .noSpace => "[Errno 28] No space left on device"
  | .nulInName => "embedded null byte"

def FileError.message (e : FileError) : String :=
  match e.fault with
  | .nulInName => e.fault.message
  | f =>
    f.message ++ ": " ++ Text.quoted e.path ++
      (match e.target with
        | none => ""
        | some t => " -> " ++ Text.quoted t)

/-- Whether a refusal is the file system's own, and not one of the name itself. -/
def FileError.isSystem (e : FileError) : Bool := e.fault ≠ .nulInName

/-- Operations one after another: the volumes they lead through, and the refusal that ended them, if
any. -/
structure Course where
  start : Volume
  later : List Volume
  refusal : Option FileError

namespace Course

/-- The volume after the operations. -/
def final (c : Course) : Volume := c.later.getLast?.getD c.start

/-- One operation on a volume. -/
def single (v : Volume) : Except FileError Volume → Course
  | .ok v' => ⟨v, [v'], none⟩
  | .error e => ⟨v, [], some e⟩

/-- Goes on with further operations, unless one was refused. -/
def andThen (c : Course) (next : Volume → Course) : Course :=
  match c.refusal with
  | some _ => c
  | none =>
    let d := next c.final
    { c with later := c.later ++ d.later, refusal := d.refusal }

/-- The volume after operations none of which was refused. -/
def result (c : Course) : Except FileError Volume :=
  match c.refusal with
  | some e => .error e
  | none => .ok c.final

end Course

namespace Volume

/-- The entry with given names from the root. -/
def find? (names : List String) (v : Volume) : Option Entry :=
  if names.isEmpty then some .directory else v.entries.lookup names

/-- Puts an entry, in place of one with the same names. -/
def put (names : List String) (e : Entry) (v : Volume) : Volume :=
  if (v.entries.lookup names).isSome then
    ⟨v.entries.map fun x => if x.1 = names then (names, e) else x⟩
  else ⟨v.entries ++ [(names, e)]⟩

/-- Removes an entry. -/
def erase (names : List String) (v : Volume) : Volume := ⟨v.entries.filter fun x => x.1 ≠ names⟩

/-- The longest name and the longest path, in bytes. -/
def maxName : Nat := 255
def maxPath : Nat := 4095

/-- Follows names from a directory: where they lead, the last of them need not exist. -/
def follow (v : Volume) : List String → List String → Except FileFault (List String)
  | here, [] => .ok here
  | here, n :: rest =>
    match v.find? here with
    | none => .error .notFound
    | some (.file _) => .error .notDirectory
    | some .directory =>
      if n = ".." then follow v here.dropLast rest
      else if maxName < n.utf8ByteSize then .error .nameTooLong
      else follow v (here ++ [n]) rest

/-- Where a path leads from a working directory. -/
def locate (v : Volume) (cwd p : Path) : Except FileFault (List String) :=
  if p.toText.toList.contains '\x00' then .error .nulInName
  else if maxPath < p.toText.utf8ByteSize then .error .nameTooLong
  else v.follow (if p.isAbsolute then [] else cwd.names) p.names

/-- The entry that a path leads to. -/
def entry (v : Volume) (cwd p : Path) : Except FileFault (List String × Entry) := do
  let names ← v.locate cwd p
  match v.find? names with
  | some e => pure (names, e)
  | none => .error .notFound

/-- Whether a path leads to an entry of a kind. A name that is too long is an error, a missing entry
is not. -/
def leadsTo (v : Volume) (cwd p : Path) (kind : Entry → Bool) : Except FileError Bool :=
  match v.entry cwd p with
  | .ok (_, e) => .ok (kind e)
  | .error .nameTooLong => .error ⟨.nameTooLong, p.toText, none⟩
  | .error _ => .ok false

def isFile (v : Volume) (cwd p : Path) : Except FileError Bool :=
  v.leadsTo cwd p fun e => e ≠ .directory

def isDirectory (v : Volume) (cwd p : Path) : Except FileError Bool :=
  v.leadsTo cwd p fun e => e = .directory

def existsAt (v : Volume) (cwd p : Path) : Except FileError Bool := v.leadsTo cwd p fun _ => true

/-- The content of a file. -/
def read (v : Volume) (cwd p : Path) : Except FileError Bytes :=
  match v.entry cwd p with
  | .ok (_, .file b) => .ok b
  | .ok (_, .directory) => .error ⟨.isDirectory, p.toText, none⟩
  | .error f => .error ⟨f, p.toText, none⟩

/-- Makes one directory; its parent must be there. -/
def makeOne (v : Volume) (cwd p : Path) : Except FileError Volume :=
  match v.locate cwd p with
  | .error f => .error ⟨f, p.toText, none⟩
  | .ok names =>
    match v.find? names with
    | some _ => .error ⟨.exists, p.toText, none⟩
    | none =>
      match v.find? names.dropLast with
      | none => .error ⟨.notFound, p.toText, none⟩
      | some (.file _) => .error ⟨.notDirectory, p.toText, none⟩
      | some .directory => .ok (v.put names .directory)

/-- Whether a path leads to a directory, a name that is refused being none. -/
def holdsDirectory (v : Volume) (cwd p : Path) : Bool :=
  match v.isDirectory cwd p with
  | .ok b => b
  | .error _ => false

/-- Makes one directory, unless a directory is there. -/
def makeMissing (v : Volume) (cwd p : Path) : Except FileError Volume :=
  match v.makeOne cwd p with
  | .ok v => .ok v
  | .error e => if v.holdsDirectory cwd p then .ok v else .error e

/-- Makes a directory with those above it; `depth` is the number of its names. A directory that is
there already is left alone. Where one is refused those above it stay. -/
def makeDeep (v : Volume) (cwd : Path) : Nat → Path → Course
  | depth, p =>
    match v.makeOne cwd p with
    | .ok v' => ⟨v, [v'], none⟩
    | .error e =>
      if e.fault = .notFound then
        match depth with
        | 0 => ⟨v, [], some e⟩
        | d + 1 => (makeDeep v cwd d p.parent).andThen fun v => .single v (v.makeMissing cwd p)
      else if v.holdsDirectory cwd p then ⟨v, [], none⟩
      else ⟨v, [], some e⟩

/-- Makes a directory with those above it. -/
def makeDirectory (v : Volume) (cwd p : Path) : Course := v.makeDeep cwd p.names.length p

/-- Makes an empty file where nothing is. -/
def create (v : Volume) (cwd p : Path) : Except FileError Volume :=
  match v.locate cwd p with
  | .error f => .error ⟨f, p.toText, none⟩
  | .ok names =>
    match v.find? names, v.find? names.dropLast with
    | some _, _ => .error ⟨.exists, p.toText, none⟩
    | none, some .directory => .ok (v.put names (.file []))
    | none, some (.file _) => .error ⟨.notDirectory, p.toText, none⟩
    | none, none => .error ⟨.notFound, p.toText, none⟩

/-- Writes a file, new or in place of the old one. -/
def write (v : Volume) (cwd p : Path) (content : Bytes) : Except FileError Volume :=
  match v.locate cwd p with
  | .error f => .error ⟨f, p.toText, none⟩
  | .ok names =>
    match v.find? names, v.find? names.dropLast with
    | some .directory, _ => .error ⟨.isDirectory, p.toText, none⟩
    | some (.file _), _ => .ok (v.put names (.file content))
    | none, some .directory => .ok (v.put names (.file content))
    | none, some (.file _) => .error ⟨.notDirectory, p.toText, none⟩
    | none, none => .error ⟨.notFound, p.toText, none⟩

/-- Moves a file over another. Nothing can be moved over a path that ends at the root, in `.` or in
`..`. -/
def replace (v : Volume) (cwd source target : Path) : Except FileError Volume :=
  let refuse (f : FileFault) : Except FileError Volume :=
    .error ⟨f, source.toText, some target.toText⟩
  match v.entry cwd source, v.locate cwd target with
  | .error f, _ => refuse f
  | _, .error f => refuse f
  | .ok (origin, e), .ok destination =>
    if target.names.isEmpty || target.name = ".." then refuse .busy
    else
      match v.find? destination with
      | some .directory => refuse .isDirectory
      | _ => .ok ((v.erase origin).put destination e)

/-- The files below a directory, as their names from it, in ascending order of paths. -/
def filesBelow (v : Volume) (directory : List String) : List (List String × Bytes) :=
  let below := v.entries.filterMap fun x =>
    match x.2 with
    | .file b =>
      if directory.isPrefixOf x.1 && directory.length < x.1.length then
        some (x.1.drop directory.length, b)
      else none
    | .directory => none
  below.mergeSort fun a b => Path.namesLe a.1 b.1

/-- Whether a directory holds nothing. -/
def isEmptyDirectory (v : Volume) (directory : List String) : Bool :=
  !v.entries.any fun x => directory.isPrefixOf x.1 && directory.length < x.1.length

end Volume

/-- A volume seen from a working directory, with the user's home and the directory of the
program. -/
structure Workspace where
  volume : Volume
  cwd : Path
  home : Path
  programDirectory : Path

namespace Workspace

def isFile (w : Workspace) (p : Path) : Except FileError Bool := w.volume.isFile w.cwd p

def isDirectory (w : Workspace) (p : Path) : Except FileError Bool := w.volume.isDirectory w.cwd p

def existsAt (w : Workspace) (p : Path) : Except FileError Bool := w.volume.existsAt w.cwd p

def read (w : Workspace) (p : Path) : Except FileError Bytes := w.volume.read w.cwd p

/-- The absolute path without `..` that a path denotes. -/
def resolve (w : Workspace) (p : Path) : Path := Path.resolve w.cwd p

/-- The path with a leading `~` replaced by the home directory; `none` for the home of somebody
else. -/
def expandHome? (w : Workspace) (p : Path) : Option Path :=
  if p.isAbsolute then some p
  else
    match p.names with
    | [] => some p
    | n :: rest =>
      if n = "~" then some ⟨w.home.anchor, w.home.names ++ rest⟩
      else if n.startsWith "~" then none
      else some p

end Workspace

/-- Why a text file gives no text. -/
inductive TextFileError where
  | file (e : FileError)
  | utf8 (e : Text.Utf8Error)

def TextFileError.message : TextFileError → String
  | .file e => e.message
  | .utf8 e => e.message

/-- The text of a text file. -/
def Workspace.readText (w : Workspace) (p : Path) : Except TextFileError String :=
  match w.read p with
  | .error e => .error (.file e)
  | .ok bytes =>
    match Text.decodeFile bytes with
    | .error e => .error (.utf8 e)
    | .ok s => .ok s

end Storybind
