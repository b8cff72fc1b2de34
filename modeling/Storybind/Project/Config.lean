import Storybind.Form
import Storybind.Json.Reader
import Storybind.Volume

/-!
Project files: defaults for the compiles of one project, kept in a JSON file in its directory. A
file that cannot be used is passed over with a warning; paths in a file are relative to its
directory.
-/

namespace Storybind

/-- The defaults of a project. -/
structure Config where
  title : String
  author : Option String
  description : Option String
  version : String
  input : String
  output : String
  assets : Option String
  theme : String
  customStyle : Option String
  customScript : Option String
  minify : Bool
  dependencies : List Value
  metadata : Entries
  others : Entries

namespace Config

/-- The tags of a project that names none. -/
def usualTags : Value := .ofList [.text "visual-novel", .text "interactive-fiction"]

/-- The defaults where there is no project file. -/
def standard : Config where
  title := "VN Game"
  author := none
  description := none
  version := "1.0.0"
  input := "story.yaml"
  output := "index.html"
  assets := none
  theme := "base"
  customStyle := none
  customScript := none
  minify := false
  dependencies := []
  metadata := [(.text "tags", usualTags)]
  others := []

/-- The names of the fields, the usual one first where a field has two. -/
def fieldNames : List (List String) :=
  [["title"], ["author"], ["description"], ["version"], ["input"], ["output"],
    ["assetsDir", "assets_dir"], ["theme"], ["customCSS", "custom_css"], ["customJS", "custom_js"],
    ["minify"], ["dependencies"], ["metadata"]]

/-- The name under which each field is given. -/
def usedNames (es : Entries) : List String :=
  fieldNames.filterMap fun names => names.find? fun n => (Entries.get? n es).isSome

/-- Reads the defaults of a project. -/
def ofValue : Value → Form Config :=
  Form.record "ProjectConfig" fun es =>
    (fun title author description version input output assets theme style script minify
          dependencies metadata =>
        ⟨title, author, description, version, input, output, assets, theme, style, script, minify,
          dependencies, metadata, Form.extras es (usedNames es)⟩)
      <$> Form.withDefault es ["title"] standard.title Form.text
      <*> Form.maybe es "author" Form.text
      <*> Form.maybe es "description" Form.text
      <*> Form.withDefault es ["version"] standard.version Form.text
      <*> Form.withDefault es ["input"] standard.input Form.text
      <*> Form.withDefault es ["output"] standard.output Form.text
      <*> Form.withDefault es ["assetsDir", "assets_dir"] none (Form.optional Form.text)
      <*> Form.withDefault es ["theme"] standard.theme Form.text
      <*> Form.withDefault es ["customCSS", "custom_css"] none (Form.optional Form.text)
      <*> Form.withDefault es ["customJS", "custom_js"] none (Form.optional Form.text)
      <*> Form.withDefault es ["minify"] false Form.bool
      <*> Form.withDefault es ["dependencies"] [] (Form.list Form.any)
      <*> Form.withDefault es ["metadata"] standard.metadata Form.textMapping

/-- The fields by the given names for the three that have two; other entries last, in place of a
field of the same name. -/
def entriesBy (assets style script : String) (c : Config) : Entries :=
  c.others.foldl (fun es e => Entries.put e.1 e.2 es)
    [(.text "title", .text c.title), (.text "author", .ofOption c.author),
      (.text "description", .ofOption c.description), (.text "version", .text c.version),
      (.text "input", .text c.input), (.text "output", .text c.output),
      (.text assets, .ofOption c.assets), (.text "theme", .text c.theme),
      (.text style, .ofOption c.customStyle), (.text script, .ofOption c.customScript),
      (.text "minify", .bool c.minify), (.text "dependencies", .ofList c.dependencies),
      (.text "metadata", .ofEntries c.metadata)]

def toValue (c : Config) : Value :=
  .ofEntries (c.entriesBy "assets_dir" "custom_css" "custom_js")

/-- The entries that a project file holds: those that are set, by their usual names. -/
def fileEntries (c : Config) : Entries :=
  (c.entriesBy "assetsDir" "customCSS" "customJS").filter fun e =>
    match e.2 with
    | .null => false
    | _ => true

/-- The names of project files, in order of preference. -/
def fileNames : List String := ["vn-config.json", "vn-compiler.json", "vnconfig.json"]

/-- The first project file of a directory. -/
def findIn (w : Workspace) (directory : Path) : List String → Except FileError (Option Path)
  | [] => .ok none
  | name :: rest => do
    let p := directory.child name
    if ← w.isFile p then pure (some p) else findIn w directory rest

/-- The project file of a directory. -/
def find (w : Workspace) (directory : Path) : Except FileError (Option Path) :=
  findIn w directory fileNames

/-- A path of a project file made relative to the directory of the file; empty ones and absolute
ones stay. -/
def placed (directory : Path) (s : String) : String :=
  if s.isEmpty || (Path.ofString s).isAbsolute then s else (directory.child s).toText

/-- The defaults with their paths below the directory of the project file. -/
def placeAt (directory : Path) (c : Config) : Config :=
  { c with
    input := placed directory c.input
    output := placed directory c.output
    assets := c.assets.map (placed directory)
    customStyle := c.customStyle.map (placed directory)
    customScript := c.customScript.map (placed directory) }

/-- Why a project file is passed over. -/
inductive Complaint where
  | file (e : FileError)
  | json (text : String) (e : Json.ReadError)
  | flaws (flaws : List Flaw)

def Complaint.message : Complaint → String
  | .file e => e.message
  | .json text e => e.message text.toList
  | .flaws fs => Flaw.summary "ProjectConfig" fs

/-- Why looking for or reading a project file fails without a result. -/
inductive ConfigError where
  | file (e : FileError)
  | utf8 (e : Text.Utf8Error)
  | digits (e : DigitLimit)
  | form (e : FormError)

def ConfigError.message : ConfigError → String
  | .file e => e.message
  | .utf8 e => e.message
  | .digits e => e.message
  | .form e => e.firstMessage

/-- The defaults in the text of a project file, or the complaint for which it is passed over. -/
def ofText (text : String) : Except ConfigError (Except Complaint Config) :=
  match Json.read text with
  | .error (.tooManyDigits n) => .error (.digits ⟨n⟩)
  | .error e => .ok (.error (.json text e))
  | .ok v =>
    match (ofValue v).outcome with
    | .ok c => .ok (.ok c)
    | .error (.flaws fs) => .ok (.error (.flaws fs))
    | .error e => .error (.form e)

/-- The defaults in a project file. -/
def ofFile (w : Workspace) (p : Path) : Except ConfigError (Except Complaint Config) :=
  match w.readText p with
  | .error (.file e) => if e.isSystem then .ok (.error (.file e)) else .error (.file e)
  | .error (.utf8 e) => .error (.utf8 e)
  | .ok text => (ofText text).map fun r => r.map (placeAt (w.resolve p).parent)

/-- Defaults with the project file they come from, and a warning if a file was passed over. -/
structure Loaded where
  config : Config
  file : Option Path
  warnings : List String

/-- The defaults of the project file at a path, else of the one in a directory. -/
def load (w : Workspace) (file : Option String) (directory : Path) : Except ConfigError Loaded := do
  let path ← match file.filter fun f => !f.isEmpty with
    | some f => pure (some (Path.ofString f))
    | none => (find w directory).mapError .file
  match path with
  | none => pure ⟨standard, none, []⟩
  | some p =>
    match ← ofFile w p with
    | .ok c => pure ⟨c, some p, []⟩
    | .error complaint =>
      pure ⟨standard, none, ["Could not load project config " ++ p.toText ++ ": " ++
        complaint.message ++ "; using defaults"]⟩

end Config
end Storybind
