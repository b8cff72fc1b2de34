import Storybind.Command.Options
import Storybind.Number.Reading
import Storybind.Project.Scaffold

/-!
What a command line asks for. The options before the command hold for every command; all that
follows the command belongs to it.
-/

namespace Storybind.Command

/-- What is asked of a compile; what is not given comes from the project file. -/
structure CompileOptions where
  input : Option String
  output : Option String
  assets : Option String
  style : Option String
  script : Option String
  minify : Bool
  title : Option String
  config : Option String
deriving DecidableEq, Repr

def CompileOptions.unset : CompileOptions :=
  ⟨none, none, none, none, none, false, none, none⟩

/-- Where the service listens, the directory it works in, and whether pages of other sites may use
it. -/
structure ServiceOptions where
  port : Int
  host : String
  crossOrigin : Bool
  workdir : String
deriving DecidableEq, Repr

/-- What a command does. -/
inductive Task where
  | compile (o : CompileOptions)
  | check (input : String) (verbose : Bool)
  | begin (plan : Project.Plan)
  | serve (o : ServiceOptions)

/-- A command line: what its command does, and how much is said while it does it. -/
structure Invocation where
  debug : Bool
  quiet : Bool
  task : Task

/-- What is read from the arguments of a command, and the arguments that it does not take. -/
structure Taken (α : Type) where
  options : α
  strays : List String

variable {α : Type}

/-- The option that asks for help; every command has it. -/
def helpOption : OptionSpec := ⟨["-h", "--help"], false⟩

/-- An action that keeps the arguments that nothing takes, and leaves when help is asked for. -/
def keepingStrays (act : Action α) : Action (Taken α)
  | .stray s, t => .ok { t with strays := t.strays ++ [s] }
  | .option "-h" _, _ => .error .help
  | e, t => (act e t.options).map fun o => { t with options := o }

/-- Reads the arguments of a command. -/
def taken (specs : List OptionSpec) (act : Action α) (takesFree required : Bool) (start : α)
    (args : List String) : Except Leave (Taken α) :=
  runAll (helpOption :: specs) (keepingStrays act) takesFree required args ⟨start, []⟩

def compileSpecs : List OptionSpec :=
  [⟨["-o", "--output"], true⟩, ⟨["--assets"], true⟩, ⟨["--css"], true⟩, ⟨["--js"], true⟩,
    ⟨["--minify"], false⟩, ⟨["--title"], true⟩, ⟨["--config"], true⟩]

def compileAction : Action CompileOptions
  | .free s, o => .ok { o with input := some s }
  | .option "-o" v, o => .ok { o with output := some v }
  | .option "--assets" v, o => .ok { o with assets := some v }
  | .option "--css" v, o => .ok { o with style := some v }
  | .option "--js" v, o => .ok { o with script := some v }
  | .option "--minify" _, o => .ok { o with minify := true }
  | .option "--title" v, o => .ok { o with title := some v }
  | .option "--config" v, o => .ok { o with config := some v }
  | _, o => .ok o

def checkSpecs : List OptionSpec := [⟨["--verbose"], false⟩]

/-- The script to check, and whether everything is said about it. -/
def checkAction : Action (String × Bool)
  | .free s, (_, verbose) => .ok (s, verbose)
  | .option "--verbose" _, (input, _) => .ok (input, true)
  | _, o => .ok o

def beginSpecs : List OptionSpec :=
  [⟨["--template"], true⟩, ⟨["--directory"], true⟩, ⟨["--title"], true⟩, ⟨["--author"], true⟩,
    ⟨["--description"], true⟩]

def beginAction : Action Project.Plan
  | .free s, p => .ok { p with name := s }
  | .option "--template" v, p =>
    match Starter.named? v with
    | some _ => .ok { p with starter := v }
    | none => .error (.wrong ("argument --template: invalid choice: " ++ Text.quoted v))
  | .option "--directory" v, p => .ok { p with directory := v }
  | .option "--title" v, p => .ok { p with title := some v }
  | .option "--author" v, p => .ok { p with author := some v }
  | .option "--description" v, p => .ok { p with description := some v }
  | _, p => .ok p

def serveSpecs : List OptionSpec :=
  [⟨["--port"], true⟩, ⟨["--host"], true⟩, ⟨["--cors"], false⟩, ⟨["--workdir"], true⟩]

def serveAction : Action ServiceOptions
  | .option "--port" v, o =>
    match readInt v.toList with
    | .ok n => .ok { o with port := n }
    | .error _ => .error (.wrong ("argument --port: invalid int value: " ++ Text.quoted v))
  | .option "--host" v, o => .ok { o with host := v }
  | .option "--cors" _, o => .ok { o with crossOrigin := true }
  | .option "--workdir" v, o => .ok { o with workdir := v }
  | _, o => .ok o

/-- Reads a command with its arguments; `workdir` is the directory that a service works in unless
another one is given. -/
def taskOf (workdir command : String) (args : List String) : Except Leave (Taken Task) :=
  match command with
  | "compile" =>
    (taken compileSpecs compileAction true false .unset args).map fun t =>
      ⟨.compile t.options, t.strays⟩
  | "validate" =>
    (taken checkSpecs checkAction true true ("", false) args).map fun t =>
      ⟨.check t.options.1 t.options.2, t.strays⟩
  | "init" =>
    (taken beginSpecs beginAction true true ⟨"", "basic", ".", none, none, none⟩ args).map fun t =>
      ⟨.begin t.options, t.strays⟩
  | "serve" =>
    (taken serveSpecs serveAction false false ⟨8000, "127.0.0.1", false, workdir⟩ args).map fun t =>
      ⟨.serve t.options, t.strays⟩
  | c => .error (.wrong ("argument command: invalid choice: " ++ Text.quoted c))

/-- What the options before the command say. -/
structure Preamble where
  debug : Bool
  quiet : Bool

def mainSpecs : List OptionSpec :=
  [⟨["--version"], false⟩, ⟨["--debug"], false⟩, ⟨["--quiet"], false⟩]

def mainAction : Action Preamble
  | .option "--version" _, _ => .error .version
  | .option "--debug" _, p => .ok { p with debug := true }
  | .option "--quiet" _, p => .ok { p with quiet := true }
  | _, p => .ok p

/-- The options before the command, the command, and the arguments after it. -/
def preamble : Taken Preamble → List String → Except Leave (Taken Preamble × String × List String)
  | _, [] => .error (.wrong "the following arguments are required: command")
  | p, text :: rest =>
    if text = "--" then .error (.wrong "argument command: invalid choice: '--'")
    else
      match classify (helpOption :: mainSpecs) text with
      | .error e => .error e
      | .ok (.free command) => .ok (p, command, rest)
      | .ok (.option o _ given) =>
        match (meaning (helpOption :: mainSpecs) o given).bind fun m =>
            m.act (keepingStrays mainAction) p with
        | .error e => .error e
        | .ok p => preamble p rest
      | .ok (.unknown s) => preamble { p with strays := p.strays ++ [s] } rest
      | .ok .mark => preamble p rest

/-- Reads a command line. All of it must be clear before anything takes effect. -/
def Invocation.ofArguments (workdir : String) (args : List String) : Except Leave Invocation := do
  let _ ← classifyAll (helpOption :: mainSpecs) args
  let (p, command, rest) ← preamble ⟨⟨false, false⟩, []⟩ args
  let t ← taskOf workdir command rest
  match p.strays ++ t.strays with
  | [] => pure ⟨p.options.debug, p.options.quiet, t.options⟩
  | strays => throw (.wrong ("unrecognized arguments: " ++ Text.join " " strays))

end Storybind.Command
