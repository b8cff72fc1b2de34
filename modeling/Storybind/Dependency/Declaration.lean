import Storybind.Form
import Storybind.Text.Case

/-!
Declarations of libraries: a library is loaded by the page from its address, bundled into the page
when it is compiled, or given as text. Reading a declaration fills in its format from its address,
takes other names for kinds and formats, and checks priority, integrity value and what the kind
needs.
-/

namespace Storybind

/-- How a library ends up in the page. -/
inductive DependencyKind where
  | remote
  | inlined
  | bundled
deriving DecidableEq, Repr

/-- What a library consists of. -/
inductive DependencyFormat where
  | script
  | stylesheet
deriving DecidableEq, Repr

/-- Which credentials a request to another site carries. -/
inductive Crossorigin where
  | anonymous
  | useCredentials
deriving DecidableEq, Repr

def DependencyKind.word : DependencyKind → String
  | .remote => "remote"
  | .inlined => "inline"
  | .bundled => "bundled"

def DependencyFormat.word : DependencyFormat → String
  | .script => "script"
  | .stylesheet => "stylesheet"

def Crossorigin.word : Crossorigin → String
  | .anonymous => "anonymous"
  | .useCredentials => "use-credentials"

/-- The format that an address suggests: that of its extension, or a stylesheet if `.css` occurs. -/
def DependencyFormat.ofAddress (address : String) : DependencyFormat :=
  let name := Text.beforeFirst '#' (Text.beforeFirst '?' (Text.lower address))
  if Text.endsWith name ".css" then .stylesheet
  else if Text.endsWith name ".js" || Text.endsWith name ".mjs" then .script
  else if Text.contains name ".css" then .stylesheet
  else .script

/-- A library as declared. -/
structure Declaration where
  name : String
  kind : DependencyKind
  url : Option String
  version : Option String
  integrity : Option String
  priority : Int
  defer : Bool
  async : Bool
  isModule : Bool
  noModule : Bool
  crossorigin : Option Crossorigin
  condition : Option String
  format : DependencyFormat
  content : Option String
  minify : Option Bool
deriving DecidableEq, Repr

namespace Declaration

/-- The kinds and formats by their names, and other names for them. -/
def kindNames : List (String × DependencyKind) :=
  [("remote", .remote), ("inline", .inlined), ("bundled", .bundled)]
def kindAliases : List (String × String) := [("cdn", "remote"), ("bundle", "bundled")]
def formatNames : List (String × DependencyFormat) :=
  [("script", .script), ("stylesheet", .stylesheet)]
def formatAliases : List (String × String) := [("js", "script"), ("css", "stylesheet")]
def crossoriginNames : List (String × Crossorigin) :=
  [("anonymous", .anonymous), ("use-credentials", .useCredentials)]

/-- A text in lower case without blanks around it, another name replaced by the usual one. -/
def normalWord (aliases : List (String × String)) : Value → Value
  | .text s =>
    let word := Text.lower (Text.trim s)
    .text ((aliases.lookup word).getD word)
  | v => v

/-- The characters of an encoded digest. -/
def isDigestChar (c : Char) : Bool := Text.isAsciiAlnum c || c = '+' || c = '/'

/-- Whether a text is an integrity value: a digest's name, a hyphen and the encoded digest. -/
def isIntegrity (s : String) : Bool :=
  match ["sha256-", "sha384-", "sha512-"].findSome? fun p => Text.after? p.toList s.toList with
  | none => false
  | some body =>
    let digits := body.takeWhile isDigestChar
    let pads := body.dropWhile isDigestChar
    !digits.isEmpty && pads.length ≤ 2 && pads.all (· = '=')

def priorityComplaint? (n : Int) : Option String :=
  if n < 0 || 100 < n then
    some (if isOverlong n then overlongMessage
      else "priority must be between 0 and 100 (got " ++ toString n ++ ")")
  else none

def integrityComplaint? : Option String → Option String
  | none => none
  | some s =>
    if isIntegrity (Text.trim s) then none
    else some "integrity must be an SRI hash such as 'sha384-<base64>'"

/-- Whether a text is missing or empty. -/
def isUnset : Option String → Bool
  | none => true
  | some s => s.isEmpty

/-- What a declaration lacks that its kind needs. -/
def complaint? (d : Declaration) : Option String :=
  if Text.isBlankText d.name then some "dependency name is required"
  else if d.kind ≠ .inlined && isUnset d.url then
    some (d.kind.word ++ " dependency '" ++ d.name ++ "' requires a url")
  else if d.kind = .inlined && isUnset d.content then
    some ("inline dependency '" ++ d.name ++ "' requires content")
  else none

/-- The entries with a format, that of the address where none is given. -/
def inferFormat (entries : Entries) : Form Entries :=
  match Value.truthy? "format" entries with
  | some _ => .ok entries
  | none =>
    match Value.truthy? "url" entries with
    | none => .ok (Entries.set "format" (.text (DependencyFormat.ofAddress "").word) entries)
    | some (.text s) =>
      .ok (Entries.set "format" (.text (DependencyFormat.ofAddress s).word) entries)
    | some (.scalar (.bytes _)) => ⟨.error .bytesAddress⟩
    | some v => ⟨.error (.noLetters v.kindName)⟩

/-- The fields of a declaration. -/
def fields (entries : Entries) : Form Declaration :=
  mk <$> Form.required entries ["name"] Form.text
    <*> Form.withDefault entries ["type", "kind"] .remote
      (fun v => Form.choice kindNames .kindOf (normalWord kindAliases v))
    <*> Form.maybe entries "url" Form.text
    <*> Form.maybe entries "version" Form.text
    <*> Form.withDefault entries ["integrity"] none (fun v =>
      (Option.map Text.trim) <$> (Form.optional Form.text v).ruled integrityComplaint?)
    <*> Form.withDefault entries ["priority"] 50 (fun v => (Form.int v).ruled priorityComplaint?)
    <*> Form.withDefault entries ["defer"] false Form.bool
    <*> Form.withDefault entries ["async", "async_"] false Form.bool
    <*> Form.withDefault entries ["module", "is_module"] false Form.bool
    <*> Form.withDefault entries ["nomodule", "no_module"] false Form.bool
    <*> Form.maybe entries "crossorigin" (Form.choice crossoriginNames .oneOf)
    <*> Form.maybe entries "condition" Form.text
    <*> Form.withDefault entries ["format"] .script
      (fun v => Form.choice formatNames .kindOf (normalWord formatAliases v))
    <*> Form.maybe entries "content" Form.text
    <*> Form.maybe entries "minify" Form.bool

/-- Reads a declaration. -/
def ofValue : Value → Form Declaration :=
  Form.record "DependencyDeclaration" fun entries =>
    (inferFormat entries).andThen fun entries => (fields entries).ruled complaint?

/-- A declaration as a value, by the names of its fields. -/
def toValue (d : Declaration) : Value :=
  .record [("name", .text d.name), ("kind", .text d.kind.word), ("url", .ofOption d.url),
    ("version", .ofOption d.version), ("integrity", .ofOption d.integrity),
    ("priority", .int d.priority), ("defer", .bool d.defer), ("async_", .bool d.async),
    ("is_module", .bool d.isModule), ("no_module", .bool d.noModule),
    ("crossorigin", .ofOption (d.crossorigin.map Crossorigin.word)),
    ("condition", .ofOption d.condition), ("format", .text d.format.word),
    ("content", .ofOption d.content),
    ("minify", match d.minify with
      | some b => .bool b
      | none => .null)]

end Declaration

/-- The categories of presets. -/
def presetCategories : List String :=
  ["ui", "audio", "graphics", "analytics", "utils", "custom"]

/-- A named group of declarations. -/
structure Preset where
  name : String
  description : String
  category : String
  dependencies : List Declaration
deriving DecidableEq, Repr

namespace Preset

/-- Reads a preset. -/
def ofValue : Value → Form Preset :=
  Form.record "DependencyPreset" fun entries =>
    mk <$> Form.required entries ["name"] Form.text
      <*> Form.withDefault entries ["description"] "" Form.text
      <*> Form.withDefault entries ["category"] "custom"
        (Form.choice (presetCategories.map fun c => (c, c)) .oneOf)
      <*> Form.withDefault entries ["dependencies"] [] (Form.list Declaration.ofValue)

def toValue (p : Preset) : Value :=
  .record [("name", .text p.name), ("description", .text p.description),
    ("category", .text p.category), ("dependencies", .ofList (p.dependencies.map Declaration.toValue))]

end Preset
end Storybind
