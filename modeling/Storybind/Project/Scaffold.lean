import Storybind.Json.Writer
import Storybind.Project.Config
import Storybind.Project.Starter
import Storybind.Project.Texts
import Storybind.Yaml.Dump

/-!
New projects: a directory with a story, a project file and folders for what the author adds. A name
must be usable and the directory must not hold anything yet; only then is anything written.
-/

namespace Storybind.Project

/-- A project to be made. -/
structure Plan where
  name : String
  starter : String
  directory : String
  title : Option String
  author : Option String
  description : Option String

/-- Why no project is made: the first three before anything is written. -/
inductive Refusal where
  | unknownStarter (name : String)
  | badName
  | inUse (root : String)
  | file (e : FileError)
deriving DecidableEq

def Refusal.message : Refusal → String
  | .unknownStarter name => "Invalid template: " ++ name ++ " (available: " ++
      Text.join ", " (Starter.all.map Starter.word) ++ ")"
  | .badName => "Project name must start with a letter and contain only letters, numbers, hyphens, " ++
      "and underscores"
  | .inUse root => "Directory '" ++ root ++ "' already exists and is not empty"
  | .file e => e.message

/-- A project that was made: its directory and its files in the order in which they were written. -/
structure Made where
  root : Path
  starter : Starter
  files : List String

/-- A character of a project's name after the first. -/
def isNameChar (c : Char) : Bool := Text.isAsciiAlnum c || c = '_' || c = '-'

/-- Whether a project may have a name. One line break at its end does not count. -/
def isName (name : String) : Bool :=
  let line := match name.toList.reverse with
    | '\n' :: rest => rest.reverse
    | _ => name.toList
  match line with
  | c :: rest => Text.isAsciiLetter c && rest.all isNameChar
  | [] => false

/-- Whether a path can become a new project: nothing is there, or an empty directory. -/
def isFree (w : Workspace) (root : Path) : Except FileError Bool := do
  if !(← w.existsAt root) then pure true
  else if !(← w.isDirectory root) then pure false
  else
    match w.volume.locate w.cwd root with
    | .ok names => pure (w.volume.isEmptyDirectory names)
    | .error _ => pure false

/-- The folders of a project. -/
def folders : List String :=
  ["assets/images", "assets/audio", "assets/video", "styles", "scripts", "dist"]

/-- A text that is given and not empty. -/
def orElse (given : Option String) (default : String) : String :=
  match given with
  | some s => if s.isEmpty then default else s
  | none => default

/-- The project file of a plan. -/
def configOf (p : Plan) (starter : Starter) (title description now : String) : Config where
  title := title
  author := p.author
  description := description
  version := Config.standard.version
  input := Config.standard.input
  output := "dist/index.html"
  assets := "assets"
  theme := starter.theme
  customStyle := "styles/custom.css"
  customScript := "scripts/custom.js"
  minify := false
  dependencies := []
  metadata := [(.text "created", .text now), (.text "template", .text starter.word),
    (.text "tags", Config.usualTags)]
  others := []

/-- A story as a file holds it. -/
def storyText (story : Value) : String :=
  match story with
  | .mapping label entries => Yaml.dump label entries
  | _ => ""

/-- A project file as a file holds it. -/
def configText (c : Config) : String :=
  match Json.write ⟨true, some 2⟩ (.ofEntries c.fileEntries) with
  | .ok s => s ++ "\n"
  | .error e => e.message

/-- The files of a project, by their paths below its directory. -/
def filesOf (p : Plan) (starter : Starter) (now : String) : List (String × String) :=
  let title := orElse p.title p.name
  let description := orElse p.description
    ("A visual novel created with the " ++ starter.word ++ " template")
  [("story.yaml", storyText (starter.story title description)),
    ("vn-config.json", configText (configOf p starter title description now)),
    ("assets/README.md", assetNotes), ("styles/custom.css", customStyle),
    ("scripts/custom.js", customScript)] ++
  (if starter = .mediaRich then
    [("assets/images/placeholder.svg", placeholderImage),
      ("components/scene-badge.js", badgeScript), ("components/scene-badge.css", badgeStyle)]
  else []) ++ [("README.md", notes p.name title starter.word)]

/-- Makes folders below a directory, up to the first that is refused. -/
def makeFolders (cwd root : Path) : List String → Volume → Option FileError × Volume
  | [], v => (none, v)
  | f :: rest, v =>
    let made := v.makeDirectory cwd (root.child f)
    match made.refusal with
    | some e => (some e, made.final)
    | none => makeFolders cwd root rest made.final

/-- Writes a file below a directory, and makes the directories above it. -/
def writeFile (cwd root : Path) (name text : String) (v : Volume) : Option FileError × Volume :=
  let p := root.child name
  let made := v.makeDirectory cwd p.parent
  match made.refusal with
  | some e => (some e, made.final)
  | none =>
    match made.final.write cwd p (Text.encode text) with
    | .error e => (some e, made.final)
    | .ok v => (none, v)

/-- Writes files below a directory, up to the first that is refused. -/
def writeFiles (cwd root : Path) : List (String × String) → Volume → Option FileError × Volume
  | [], v => (none, v)
  | f :: rest, v =>
    match writeFile cwd root f.1 f.2 v with
    | (some e, v) => (some e, v)
    | (none, v) => writeFiles cwd root rest v

/-- What can be said of a plan before anything is written. -/
def check (w : Workspace) (p : Plan) : Except Refusal (Starter × Path) :=
  match Starter.named? p.starter with
  | none => .error (.unknownStarter p.starter)
  | some starter =>
    if !isName p.name then .error .badName
    else
      let root := (Path.ofString p.directory).child p.name
      match isFree w root with
      | .error e => .error (.file e)
      | .ok false => .error (.inUse root.toText)
      | .ok true => .ok (starter, root)

/-- Makes a project at a time `now`. -/
def create (w : Workspace) (now : String) (p : Plan) : Except Refusal Made × Volume :=
  match check w p with
  | .error e => (.error e, w.volume)
  | .ok (starter, root) =>
    match makeFolders w.cwd root folders w.volume with
    | (some e, v) => (.error (.file e), v)
    | (none, v) =>
      let files := filesOf p starter now
      match writeFiles w.cwd root files v with
      | (some e, v) => (.error (.file e), v)
      | (none, v) => (.ok ⟨root, starter, files.map (·.1)⟩, v)

end Storybind.Project
