import Storybind.Text.Pieces

/-!
Command lines: options with and without a value, and at most one free argument. An option may be cut
short as long as it stays clear, takes its value after `=` or as the next argument, and after `--`
everything is a free argument. All arguments are classified before any of them takes effect.
-/

namespace Storybind.Command

/-- An option: its names, the usual one first, and whether it takes a value. -/
structure OptionSpec where
  names : List String
  takesValue : Bool
deriving DecidableEq, Repr

/-- The usual name of an option. -/
def OptionSpec.name (o : OptionSpec) : String := o.names.headD ""

/-- What is part of an argument besides its option: nothing, a value after `=`, or what is joined to
a short option. -/
inductive Rest where
  | none
  | value (s : String)
  | joined (s : String)
deriving DecidableEq, Repr

/-- An argument, classified: an option with what else is part of the argument, an option that is not
known, a free argument, or the mark after which everything is free. -/
inductive Argument where
  | option (spec : OptionSpec) (written : String) (rest : Rest)
  | unknown (text : String)
  | free (text : String)
  | mark
deriving DecidableEq, Repr

/-- What takes effect: an option with its value, a free argument, or one that nothing takes. -/
inductive Effect where
  | option (name : String) (value : String)
  | free (text : String)
  | stray (text : String)
deriving DecidableEq, Repr

/-- Why a command line is not run: help or the version was asked for, or it is wrong. -/
inductive Leave where
  | help
  | version
  | wrong (complaint : String)
deriving DecidableEq, Repr

/-- The exit code of a command line that is not run. -/
def Leave.code : Leave → Nat
  | .wrong _ => 2
  | _ => 0

/-- A number with a minus sign; it is a free argument, as no option looks like a number. -/
def isNegativeNumber (s : List Char) : Bool :=
  match s with
  | '-' :: rest =>
    let whole := rest.takeWhile Text.isDigit
    match rest.drop whole.length with
    | [] => !whole.isEmpty
    | '.' :: part => !part.isEmpty && part.all Text.isDigit
    | _ => false
  | _ => false

/-- The options with a name, each with that name. -/
def named (specs : List OptionSpec) : List (OptionSpec × String) :=
  specs.flatMap fun o => o.names.map fun n => (o, n)

/-- The texts before and after the first `=`. -/
def cutValue (s : String) : String × Rest :=
  match Text.cutAt? ['='] s.toList with
  | some (name, value) => (String.ofList name, .value (String.ofList value))
  | none => (s, .none)

/-- The options that an argument may mean: those whose long name it starts, or the short option it
starts with. -/
def candidates (specs : List OptionSpec) (text : String) : List Argument :=
  if Text.startsWith text "--" then
    let (start, rest) := cutValue text
    (named specs).filterMap fun (o, n) =>
      if Text.startsWith n start then some (.option o n rest) else none
  else
    let short := Text.take 2 text
    (named specs).filterMap fun (o, n) =>
      if n = short then some (.option o n (.joined (Text.drop 2 text)))
      else if Text.startsWith n text then some (.option o n .none)
      else none

/-- Classifies one argument. -/
def classify (specs : List OptionSpec) (text : String) : Except Leave Argument :=
  let exact (name : String) (rest : Rest) : Option Argument :=
    ((named specs).find? fun x => x.2 = name).map fun x => .option x.1 x.2 rest
  if !Text.startsWith text "-" || text = "-" then .ok (.free text)
  else
    match exact text .none with
    | some a => .ok a
    | none =>
      let (name, rest) := cutValue text
      match if rest = .none then none else exact name rest with
      | some a => .ok a
      | none =>
        match candidates specs text with
        | [a] => .ok a
        | _ :: _ :: _ => .error (.wrong ("ambiguous option: " ++ text))
        | [] =>
          if isNegativeNumber text.toList || Text.contains text " " then .ok (.free text)
          else .ok (.unknown text)

/-- Classifies arguments; after the mark everything is free. -/
def classifyAll (specs : List OptionSpec) : List String → Except Leave (List Argument)
  | [] => .ok []
  | text :: rest =>
    if text = "--" then .ok (.mark :: rest.map .free)
    else do
      let a ← classify specs text
      let others ← classifyAll specs rest
      pure (a :: others)

/-- What one argument means: its options, of which the last has the value, and letters that mean
nothing. -/
structure Meaning where
  options : List OptionSpec
  value : Option String
  stray : Option String

/-- The meaning of a short option and the letters that are joined to it. -/
def unbundle (specs : List OptionSpec) (o : OptionSpec) : List Char → Except Leave Meaning
  | [] => .ok ⟨[o], none, none⟩
  | c :: cs =>
    if o.takesValue then .ok ⟨[o], some (String.ofList (c :: cs)), none⟩
    else if c = '-' then .error (.wrong ("ignored explicit argument " ++ String.ofList (c :: cs)))
    else
      match (named specs).find? fun x => x.2 = String.ofList ['-', c], cs with
      | none, _ => .ok ⟨[o], none, some (String.ofList ('-' :: c :: cs))⟩
      | some (next, _), '=' :: value =>
        if next.takesValue then .ok ⟨[o, next], some (String.ofList value), none⟩
        else .error (.wrong ("ignored explicit argument " ++ String.ofList value))
      | some (next, _), cs =>
        (unbundle specs next cs).map fun m => { m with options := o :: m.options }

/-- The meaning of one argument. -/
def meaning (specs : List OptionSpec) (o : OptionSpec) : Rest → Except Leave Meaning
  | .none => .ok ⟨[o], none, none⟩
  | .value v =>
    if o.takesValue then .ok ⟨[o], some v, none⟩
    else .error (.wrong ("ignored explicit argument " ++ v))
  | .joined v => unbundle specs o v.toList

/-- What a command line does to a state, effect by effect. -/
abbrev Action (σ : Type) := Effect → σ → Except Leave σ

variable {σ : Type}

/-- Lets options take effect; the last one has the value. -/
def actAll (act : Action σ) (value : Option String) : List OptionSpec → σ → Except Leave σ
  | [], s => .ok s
  | [o], s => act (.option o.name (value.getD "")) s
  | o :: rest, s => do
    let s ← act (.option o.name "") s
    actAll act value rest s

/-- Whether the last option takes a value that is not part of the argument. -/
def Meaning.wantsValue (m : Meaning) : Bool :=
  m.value.isNone && (m.options.getLast?.map OptionSpec.takesValue).getD false

/-- Lets the options of an argument take effect. -/
def Meaning.act (m : Meaning) (act : Action σ) (s : σ) : Except Leave σ := do
  let s ← actAll act m.value m.options s
  match m.stray with
  | some t => act (.stray t) s
  | none => pure s

/-- Runs classified arguments; `open_` says whether the free argument is still to come. -/
def run (specs : List OptionSpec) (act : Action σ) :
    Bool → List Argument → σ → Except Leave (Bool × σ)
  | open_, [], s => .ok (open_, s)
  | open_, .unknown t :: rest, s => do
    let s ← act (.stray t) s
    run specs act open_ rest s
  | open_, .free t :: rest, s =>
    if open_ then do
      let s ← act (.free t) s
      match rest with
      | .mark :: rest => run specs act false rest s
      | rest => run specs act false rest s
    else do
      let s ← act (.stray t) s
      run specs act false rest s
  | open_, .mark :: rest, s =>
    if open_ then run specs act true rest s
    else do
      let s ← act (.stray "--") s
      run specs act false rest s
  | open_, .option o written given :: rest, s => do
    let m ← meaning specs o given
    if m.wantsValue then
      match rest with
      | .free v :: rest => do
        let s ← { m with value := some v }.act act s
        run specs act open_ rest s
      | _ => throw (.wrong ("argument " ++ written ++ ": expected one argument"))
    else do
      let s ← m.act act s
      run specs act open_ rest s

/-- Runs a command line with a free argument if `takesFree`, which must be there if `required`. -/
def runAll (specs : List OptionSpec) (act : Action σ) (takesFree required : Bool)
    (args : List String) (s : σ) : Except Leave σ := do
  let items ← classifyAll specs args
  let (missing, s) ← run specs act takesFree items s
  if missing && required then throw (.wrong "the following arguments are required")
  pure s

end Storybind.Command
