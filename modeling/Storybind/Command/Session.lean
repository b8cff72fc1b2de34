import Storybind.Command.Invocation
import Storybind.Compile.Compiler
import Storybind.Number.Fixed
import Storybind.Project.Config
import Storybind.Script.Check

/-!
Runs of commands. A run works on a session: the files, the network and the settings as earlier runs
left them. It says what it does in lines, of which those before a trouble stay said, and ends with
an exit code.
-/

namespace Storybind.Command

/-- What outlasts a run. -/
structure Session where
  workspace : Workspace
  network : Web.Network
  settings : Settings

/-- A table that a run shows. -/
structure Table where
  title : String
  columns : List String
  rows : List (List String)
deriving DecidableEq, Repr

/-- A service that a run starts. -/
structure Listening where
  host : String
  port : Int
  verbose : Bool
  crossOrigin : Bool
deriving DecidableEq, Repr

/-- A line of a run: for the user, about a problem, a table, the counts of a page, or a service that
starts. -/
inductive Line where
  | said (text : String)
  | warned (text : String)
  | shown (table : Table)
  | counted (stats : Stats)
  | listening (service : Listening)
deriving DecidableEq, Repr

/-- What ends a run without a result. -/
inductive Trouble where
  | config (e : Config.ConfigError)
  | form (e : FormError)
  | compile (e : Breakdown)
  | check (e : Check.CheckError)
  | file (e : FileError)

def Trouble.message : Trouble → String
  | .config e => e.message
  | .form e => e.firstMessage
  | .compile e => e.message
  | .check e => e.message
  | .file e => e.message

/-- How a run ends. -/
inductive Exit where
  | done
  | failed
  | broken (e : Trouble)
  | left (e : Leave)

/-- The exit code of a run. -/
def Exit.code : Exit → Nat
  | .done => 0
  | .failed => 1
  | .broken _ => 2
  | .left e => e.code

/-- The outcome of a run. -/
structure Outcome where
  exit : Exit
  lines : List Line

/-- Warnings as lines, after a line with their number. -/
def warningLines (warnings : List String) : List Line :=
  match warnings with
  | [] => []
  | ws => .warned ("[yellow]" ++ toString ws.length ++ " warning(s):[/yellow]") ::
      ws.map fun w => .warned ("  [yellow]-[/yellow] " ++ w)

/-- The complaint about a file that is not there. -/
def notFound (what name : String) : Outcome :=
  ⟨.failed, [.warned ("[red]" ++ what ++ " not found:[/red] " ++ name)]⟩

/-! ### Compiling -/

/-- A text that is given and not empty, else another one. -/
def filledOr (s : Option String) (other : Option String) : Option String :=
  match s with
  | some t => if t.isEmpty then other else some t
  | none => other

/-- Entries with a value under a text unless something is there. -/
def setDefault (name : String) (value : Value) (es : Entries) : Entries :=
  if (Entries.get? name es).isSome then es else Entries.set name value es

namespace CompileOptions

/-- The metadata of a page: those of the project file, and its author, description, version and
title where they say nothing; the title on the command line goes before all of them. -/
def metadata (o : CompileOptions) (l : Config.Loaded) : Entries :=
  let c := l.config
  let es := setDefault "version" (.text c.version) <|
    setDefault "description" (.ofOption c.description) <|
    setDefault "author" (.ofOption c.author) c.metadata
  let es := if l.file.isSome then setDefault "title" (.text c.title) es else es
  let es := match filledOr o.title none with
    | some t => Entries.set "title" (.text t) es
    | none => es
  es.filter fun e =>
    match e.2 with
    | .null => false
    | _ => true

/-- Where a page goes that no project file places. -/
def usualOutput : String := "game.html"

/-- The request of a compile. What the command line leaves open comes from the project file. -/
def request (o : CompileOptions) (l : Config.Loaded) : Form Request :=
  let c := l.config
  let title : Value := match filledOr o.title none with
    | some t => .text t
    | none => (Entries.get? "title" c.metadata).getD .null
  let fields : Value := .record [
    ("input", .text ((filledOr o.input none).getD c.input)),
    ("output", .text ((filledOr o.output none).getD
      (if l.file.isSome then c.output else usualOutput))),
    ("assets_dir", .ofOption (filledOr o.assets c.assets)),
    ("custom_css", .ofOption (filledOr o.style c.customStyle)),
    ("custom_js", .ofOption (filledOr o.script c.customScript)),
    ("minify", .bool (o.minify || c.minify)),
    ("title", title),
    ("theme", if l.file.isSome then .text c.theme else .null),
    ("dependencies", .ofList c.dependencies)]
  (Metadata.ofValue (.ofEntries (o.metadata l))).andThen fun m =>
    (fun r => { r with metadata := m }) <$> Request.ofValue fields

end CompileOptions

/-- The counts of a page in a table. -/
def countsTable (s : Stats) : Table :=
  ⟨"Compilation Statistics", ["Metric", "Value"],
    [["Scenes", toString s.scenes], ["Assets", toString s.assets],
      ["Components", toString s.components], ["Dependencies", toString s.libraries],
      ["Output size", sizeText s.size]]⟩

/-- What is said about the result of a compile. -/
def resultOutcome (quiet : Bool) (input : String) (r : Result) : Outcome :=
  match r.outcome with
  | .error f =>
    let hint := if Text.contains f.message "YAML" then
        [Line.warned ("Run 'vn-compiler validate " ++ input ++ "' for details")]
      else []
    ⟨.failed, .warned ("[red]Compilation failed:[/red] " ++ f.message) ::
      warningLines r.warnings ++ hint⟩
  | .ok stats =>
    ⟨.done, (if quiet then [] else [.counted stats]) ++
      .said ("[green]Game compiled:[/green] " ++ r.output) :: warningLines r.warnings⟩

/-- Compiles what a request asks for. The input must be a file unless it is a story itself. -/
def compileRequest (c : Compiler) (quiet : Bool) (r : Request) (s : Session) : Outcome × Session :=
  let isStory := r.input.toList.contains '\n'
  match if isStory then .ok true else s.workspace.isFile (Path.ofString r.input) with
  | .error e => (⟨.broken (.file e), []⟩, s)
  | .ok false => (notFound "Input file" r.input, s)
  | .ok true =>
    let c := { c with settings := s.settings }
    match c.compile r ⟨s.workspace, ⟨s.network, Cache.empty s.settings.useFetchCache⟩⟩ with
    | (result, world) =>
      let s := { s with workspace := world.workspace, network := world.fetch.network }
      match result with
      | .error e => (⟨.broken (.compile e), []⟩, s)
      | .ok result => (resultOutcome quiet r.input result, s)

/-- Compiles; warnings about the project file come first. -/
def runCompile (c : Compiler) (quiet : Bool) (o : CompileOptions) (s : Session) :
    Outcome × Session :=
  match Config.load s.workspace o.config (Path.ofString ".") with
  | .error e => (⟨.broken (.config e), []⟩, s)
  | .ok l =>
    let first := warningLines l.warnings
    match (o.request l).outcome with
    | .error e => (⟨.broken (.form e), first⟩, s)
    | .ok r =>
      let (outcome, s) := compileRequest c quiet r s
      ({ outcome with lines := first ++ outcome.lines }, s)

/-! ### Checking -/

/-- Where an issue is, in words. -/
def placeText : Option Location → String
  | none => ""
  | some l =>
    let scene := match filledOr l.scene none with
      | some s => ["scene " ++ s]
      | none => []
    let line := match l.line with
      | some n => ["line " ++ toString n ++ ":" ++ (match l.column with
          | some c => toString c
          | none => "None")]
      | none => []
    Text.join ", " (scene ++ line)

/-- Issues in a table, with suggestions if everything is to be said. -/
def issuesTable (name : String) (verbose : Bool) (issues : List Issue) : Table :=
  ⟨"Errors in " ++ name,
    ["Type", "Location", "Message"] ++ (if verbose then ["Suggestion"] else []),
    issues.map fun i => [i.kind.word, placeText i.location, i.message] ++
      (if verbose then [i.suggestion] else [])⟩

/-- What is said about a report on a script. -/
def reportOutcome (path : Path) (verbose : Bool) (r : Report) : Outcome :=
  let table := if r.issues.isEmpty then []
    else [Line.shown (issuesTable path.name verbose r.issues)]
  let warnings := if verbose || r.isValid then warningLines r.warnings else []
  if r.isValid then
    ⟨.done, table ++ warnings ++ [.said ("[green]" ++ path.toText ++ " is valid[/green]")]⟩
  else
    ⟨.failed, table ++ warnings ++
      [.warned ("[red]Validation failed with " ++ toString r.issues.length ++ " error(s)[/red]")]⟩

/-- Checks a script. -/
def runCheck (w : Workspace) (input : String) (verbose : Bool) : Outcome :=
  let path := Path.ofString input
  match w.isFile path with
  | .error e => ⟨.broken (.file e), []⟩
  | .ok false => notFound "Input file" input
  | .ok true =>
    match Check.file w path with
    | .error e => ⟨.broken (.check e), []⟩
    | .ok r => reportOutcome path verbose r

/-! ### New projects and the service -/

/-- What is said about a new project. -/
def madeOutcome (quiet : Bool) (made : Project.Made) : Outcome :=
  let root := made.root.toText
  ⟨.done, .said ("[green]Created " ++ made.starter.word ++ " project:[/green] " ++ root) ::
    (if quiet then []
    else made.files.map (fun f => .said ("  " ++ f)) ++
      [.said ("\nNext: cd " ++ root ++ " && vn-compiler compile story.yaml")])⟩

/-- Makes a project. -/
def runBegin (now : String) (quiet : Bool) (plan : Project.Plan) (s : Session) :
    Outcome × Session :=
  let (result, volume) := Project.create s.workspace now plan
  let s := { s with workspace := { s.workspace with volume := volume } }
  match result with
  | .error (.file e) => (⟨.broken (.file e), []⟩, s)
  | .error e => (⟨.failed, [.warned ("[red]" ++ e.message ++ "[/red]")]⟩, s)
  | .ok made => (madeOutcome quiet made, s)

/-- Starts the service. Its directory, and that pages of other sites may use it, hold from now
on. -/
def runServe (debug : Bool) (o : ServiceOptions) (s : Session) : Outcome × Session :=
  let path := Path.ofString o.workdir
  match s.workspace.isDirectory path with
  | .error e => (⟨.broken (.file e), []⟩, s)
  | .ok false => (notFound "Workdir" o.workdir, s)
  | .ok true =>
    let workdir := (s.workspace.resolve path).toText
    let settings := { s.settings with
      workdir := workdir, crossOrigin := s.settings.crossOrigin || o.crossOrigin }
    (⟨.done, [.said ("Serving " ++ workdir ++ " on http://" ++ o.host ++ ":" ++ toString o.port),
      .listening ⟨o.host, o.port, debug, settings.crossOrigin⟩]⟩, { s with settings := settings })

/-- Runs a command line. -/
def Session.run (c : Compiler) (args : List String) (s : Session) : Outcome × Session :=
  match Invocation.ofArguments s.settings.workdir args with
  | .error e => (⟨.left e, []⟩, s)
  | .ok i =>
    match i.task with
    | .compile o => runCompile c i.quiet o s
    | .check input verbose => (runCheck s.workspace input verbose, s)
    | .begin plan => runBegin c.now i.quiet plan s
    | .serve o => runServe i.debug o s

/-- The line that tells the version. -/
def versionLine : String := "vn-compiler " ++ Page.version

end Storybind.Command
