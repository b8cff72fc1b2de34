import Std.Time
import Storybind.Command.Session
import Storybind.Service.Answer
import Storybind.Text.Base64

/-!
The command line. The files that a run works on come in on standard input, one JSON object a line:
`path` with `text`, with `base64`, or with neither for a directory. They end at an empty line or
with the input. The files that the run writes go to standard output in the same form, so that
nothing but the two streams is touched. A service that was started answers the lines after the empty
one: each is a list of method, address and body, and so is each reply of status and body.
-/

namespace Storybind.Console

/-- The directory that a run works in; relative paths of files lie below it. -/
def workingDirectory : Path := Path.ofString "/work"

/-- The files before any comes in. -/
def emptyWorkspace : Workspace :=
  let make (v : Volume) (p : Path) : Volume := (v.makeDirectory workingDirectory p).final
  let volume := [workingDirectory, Path.ofString "/home", Path.ofString "/bin"].foldl make ⟨[]⟩
  ⟨volume, workingDirectory, Path.ofString "/home", Path.ofString "/bin"⟩

/-- Takes in a file or a directory. -/
def receive (v : Volume) (entry : Value) : Except String Volume :=
  match entry.get? "path" with
  | some (.text name) =>
    let path := Path.ofString name
    let content : Except String (Option Bytes) := match entry.get? "text", entry.get? "base64" with
      | some (.text s), _ => .ok (some (Text.encode s))
      | _, some (.text s) => ((Text.unbase64 s).mapError Text.Base64Fault.message).map some
      | _, _ => .ok none
    content.bind fun content =>
      match content with
      | none => (v.makeDirectory workingDirectory path).result.mapError FileError.message
      | some bytes =>
        ((v.makeDirectory workingDirectory path.parent).result.bind fun v =>
          v.write workingDirectory path bytes).mapError FileError.message
  | _ => .error "a file has no path"

/-- A file as it goes out. -/
def sent (name : String) (content : Bytes) : Value :=
  match Text.decode content with
  | .ok s => .record [("path", .text name), ("text", .text s)]
  | .error _ => .record [("path", .text name), ("base64", .text (Text.base64 content))]

/-- The files that are new or changed. -/
def written (before after : Volume) : List Value :=
  (after.filesBelow []).filterMap fun (names, content) =>
    if before.find? names = some (.file content) then none
    else some (sent ("/" ++ Text.join "/" names) content)

/-- The colours that lines name. -/
def colours : List String :=
  ["[red]", "[/red]", "[green]", "[/green]", "[yellow]", "[/yellow]"]

/-- A line without its colours. -/
def plain (s : String) : String := colours.foldl (fun s c => Text.replace s c "") s

/-- A cell as wide as its column. -/
def padded (width : Nat) (s : String) : String :=
  s ++ String.ofList (List.replicate (width - s.length) ' ')

/-- A table in columns. -/
def tableLines (t : Command.Table) : List String :=
  let rows := t.columns :: t.rows
  let widths := (List.range t.columns.length).map fun k =>
    (rows.map fun r => (r.getD k "").length).foldl max 0
  t.title :: rows.map fun r =>
    Text.trim (Text.join "  " ((r.zip widths).map fun (s, n) => padded n s))

/-- What a line of a run says, `elapsed` milliseconds after its start. -/
def lineTexts (elapsed : Nat) : Command.Line → List String
  | .said s | .warned s => [plain s]
  | .shown t => tableLines t
  | .counted s =>
    let t := Command.countsTable s
    tableLines { t with rows := t.rows ++ [["Compilation time", durationText elapsed]] }
  | .listening _ => []

/-- Whether a run started a service. -/
def startsService (lines : List Command.Line) : Bool :=
  lines.any fun l => match l with
    | .listening _ => true
    | _ => false

/-- The compiler of a run. -/
def compiler (s : Settings) (now : String) : Compiler where
  settings := s
  presets := []
  player := ⟨none, if s.templatePath.isEmpty then none else some (Path.ofString s.templatePath),
    s.defaultTheme⟩
  engine := Engine.usual
  minifier := fun document => .ok document
  embedLimit := Asset.maxEmbedded
  now := now
  mark := "00000000"
  refusals := Output.noRefusals

/-- A call from a line: a list of method, address and body. -/
def callOf (v : Value) : Option Service.Call :=
  match v with
  | .list _ [.text m, .text a, .null] => some ⟨m, a, none⟩
  | .list _ [.text m, .text a, b] => some ⟨m, a, some b⟩
  | _ => none

/-- A reply as a list of status and body. -/
def replyValue (r : Service.Reply) : Value :=
  let body := match r.body with
    | .data v => v
    | .page s => .text s
  .ofList [.int r.status, body]

/-- The present time. -/
def present : IO String := do
  let t ← Std.Time.Timestamp.now
  let d := Std.Time.DateTime.ofTimestamp t Std.Time.TimeZone.ZoneRules.UTC
  pure (d.format "uuuu-MM-dd'T'HH:mm:ss.SSSSSS'+00:00'")

/-- Prints a value on a line. -/
def printValue (v : Value) : IO Unit :=
  match Json.write ⟨true, none⟩ v with
  | .ok s => IO.println s
  | .error e => IO.eprintln e.message

/-- Reads a value from each line up to an empty one. -/
partial def readValues (stdin : IO.FS.Stream) (act : Value → IO Unit) : IO Unit := do
  let line ← stdin.getLine
  if Text.isBlankText line then return
  match Json.read line with
  | .ok v => act v
  | .error e => IO.eprintln (e.message line.toList)
  readValues stdin act

/-- The settings in the environment of the program. -/
def environment : IO Settings.Environment := do
  let values ← Settings.variableNames.mapM fun name => do
    pure ((← IO.getEnv name).map fun value => (name, value))
  pure (values.filterMap id)

/-- Answers calls and hands out what they write. -/
def serve (stdin : IO.FS.Stream) (c : Compiler) (world : World) : IO Unit := do
  let state ← IO.mkRef world
  readValues stdin fun v => do
    match callOf v with
    | none => IO.eprintln "a call is a list of method, address and body"
    | some call =>
      let before ← state.get
      let (reply, after) := Service.answer c call before
      state.set after
      match reply with
      | .ok r => printValue (replyValue r)
      | .error e => printValue (.record [("error", .text e.message)])
      (written before.workspace.volume after.workspace.volume).forM printValue

/-- Runs a command line with settings. -/
def runWith (settings : Settings) (args : List String) : IO UInt32 := do
  let stdin ← IO.getStdin
  let files ← IO.mkRef emptyWorkspace
  readValues stdin fun v => do
    let w ← files.get
    match receive w.volume v with
    | .ok volume => files.set { w with volume := volume }
    | .error e => IO.eprintln e
  let workspace ← files.get
  let c := compiler settings (← present)
  let start ← IO.monoMsNow
  let (outcome, session) := Command.Session.run c args ⟨workspace, .empty, settings⟩
  let elapsed := (← IO.monoMsNow) - start
  (outcome.lines.flatMap (lineTexts elapsed)).forM fun s => IO.eprintln s
  (written workspace.volume session.workspace.volume).forM printValue
  match outcome.exit with
  | .left .version => IO.println Command.versionLine
  | .left .help => IO.println "usage: vn-compiler [--version] [--debug] [--quiet] command ..."
  | .left (.wrong complaint) => IO.eprintln ("vn-compiler: error: " ++ complaint)
  | .broken e => IO.eprintln ("Unexpected error: " ++ e.message)
  | _ => pure ()
  if startsService outcome.lines then
    let c := { c with settings := session.settings }
    serve stdin c ⟨session.workspace, ⟨session.network, .empty settings.useFetchCache⟩⟩
  pure outcome.exit.code.toUInt32

end Storybind.Console

def main (args : List String) : IO UInt32 := do
  match Storybind.Settings.ofEnvironment (← Storybind.Console.environment) with
  | .ok settings => Storybind.Console.runWith settings args
  | .error e =>
    IO.eprintln e.message
    pure 1
