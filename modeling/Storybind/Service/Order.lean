import Storybind.Compile.Request
import Storybind.Lookup
import Storybind.Settings

/-!
What clients of the service send. Every path that they send is resolved inside the directory that
the service works in; one that leads outside is refused before anything is read or written.
-/

namespace Storybind.Service

/-- A compile as a client asks for it; the story is a file or is sent along. -/
structure Order where
  input : Option String
  story : Option String
  output : String
  assets : Option String
  customStyle : Option String
  customScript : Option String
  minify : Bool
  title : Option String
  theme : Option String
  metadata : Metadata
  libraries : List AddedLibrary

/-- A check as a client asks for it; the script is a file or is sent along. -/
structure Question where
  content : Option String
  input : Option String
deriving DecidableEq, Repr

/-- Why the service refuses a request. -/
inductive Refusal where
  | noInput
  | noScript
  | outside (label value : String)
  | noPage
  | badGameName (name : String)
  | scriptMissing (input : String)
  | gameMissing (name : String)
  | unknownPath
  | wrongMethod
deriving DecidableEq, Repr

namespace Refusal

def status : Refusal → Nat
  | .scriptMissing _ | .gameMissing _ | .unknownPath => 404
  | .wrongMethod => 405
  | _ => 400

def message : Refusal → String
  | .noInput => "Either 'input' or 'script' is required"
  | .noScript => "Either 'content' or 'input' is required"
  | .outside label value => label ++ " must stay inside the server workdir: " ++ value
  | .noPage => "output must be an .html file"
  | .badGameName name => "Invalid game name: " ++ name
  | .scriptMissing input => "Script not found: " ++ input
  | .gameMissing name => "Game not found: " ++ name
  | .unknownPath => "Not Found"
  | .wrongMethod => "Method Not Allowed"

end Refusal

/-- Why a request gives no ordinary reply: it is refused, or a path in it cannot be resolved. -/
inductive Halt where
  | refused (r : Refusal)
  | unresolved (e : LookupError)
deriving DecidableEq

/-- The directory that the service works in. -/
def workdir (w : Workspace) (s : Settings) : Except LookupError Path :=
  Lookup.fullPath w (Path.ofString s.workdir)

/-- The path that a client means, which must lie inside a directory. -/
def inside (w : Workspace) (root : Path) (label value : String) : Except Halt Path :=
  match Lookup.fullPath w (root.child value) with
  | .error e => .error (.unresolved e)
  | .ok p => if root.isWithin p then .ok p else .error (.refused (.outside label value))

/-- The path that a client means, if it gives one. -/
def insideIfGiven (w : Workspace) (root : Path) (label : String) :
    Option String → Except Halt (Option String)
  | none => .ok none
  | some value =>
    if value.isEmpty then .ok none
    else (inside w root label value).map fun p => some p.toText

/-- The extensions of pages. -/
def pageSuffixes : List String := [".html", ".htm"]

namespace Order

def ofValue (v : Value) : Form Order :=
  Form.loosely <| Form.record "CompileApiRequest" (fun es =>
    Order.mk <$> Form.maybe es "input" Form.text
      <*> Form.maybe es "script" Form.text
      <*> Form.withDefault es ["output"] "game.html" Form.text
      <*> Form.maybe es "assets_dir" Form.text
      <*> Form.maybe es "custom_css" Form.text
      <*> Form.maybe es "custom_js" Form.text
      <*> Form.withDefault es ["minify"] false Form.bool
      <*> Form.maybe es "title" Form.text
      <*> Form.maybe es "theme" Form.text
      <*> Form.withDefault es ["metadata"] .empty Metadata.ofValue
      <*> Form.withDefault es ["dependencies"] [] (Form.list AddedLibrary.ofValue)) v

/-- The input of the compile: the story that is sent along, with a line break so that it is not
taken for a path, or the path of the file. -/
def source (w : Workspace) (root : Path) (o : Order) : Except Halt String :=
  match o.story.filter fun s => !s.isEmpty with
  | some s => .ok (if s.toList.contains '\n' then s else s ++ "\n")
  | none =>
    match o.input.filter fun s => !s.isEmpty with
    | some s => (inside w root "input" s).map Path.toText
    | none => .error (.refused .noInput)

/-- The page that an order is for. -/
def target (w : Workspace) (root : Path) (o : Order) : Except Halt Path := do
  let output ← inside w root "output" o.output
  if pageSuffixes.contains (Text.lower output.suffix) then pure output
  else throw (.refused .noPage)

/-- The compile that an order asks for, with all its paths inside a directory, and the page. -/
def place (w : Workspace) (root : Path) (o : Order) : Except Halt (Request × Path) := do
  let input ← o.source w root
  let output ← o.target w root
  let assets ← insideIfGiven w root "assets_dir" o.assets
  let style ← insideIfGiven w root "custom_css" o.customStyle
  let script ← insideIfGiven w root "custom_js" o.customScript
  pure (⟨input, output.toText, assets, style, script, o.minify, o.title, o.theme, o.metadata,
    o.libraries⟩, output)

end Order

def Question.ofValue (v : Value) : Form Question :=
  Form.loosely <| Form.record "ValidateApiRequest" (fun es =>
    Question.mk <$> Form.maybe es "content" Form.text <*> Form.maybe es "input" Form.text) v

/-- A character of a game's name after the first. -/
def isGameNameChar (c : Char) : Bool :=
  Text.isAsciiAlnum c || c = '_' || c = '.' || c = '-'

/-- Whether a game may have a name. One line break at its end does not count. -/
def isGameName (name : String) : Bool :=
  let line := match name.toList.reverse with
    | '\n' :: rest => rest.reverse
    | _ => name.toList
  match line with
  | c :: rest => Text.isAsciiAlnum c && rest.all isGameNameChar
  | [] => false

/-- The file of a game. -/
def gameFile (name : String) : String :=
  if pageSuffixes.any (Text.endsWith name) then name else name ++ ".html"

/-- The path of a game. -/
def gamePath (w : Workspace) (root : Path) (name : String) : Except Halt Path :=
  if isGameName name then inside w root "game" (gameFile name)
  else .error (.refused (.badGameName name))

end Storybind.Service
