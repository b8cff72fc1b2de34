import Storybind.Dependency.Declaration
import Storybind.Project.Metadata

/-!
What is asked of a compile: the story and where the page goes, and what the caller adds to the
story.
-/

namespace Storybind

/-- A library that the caller adds: declared, or in short. -/
inductive AddedLibrary where
  | declared (d : Declaration)
  | short (text : String)
deriving DecidableEq, Repr

/-- A compile as asked for. The input is the path of a story, or the story itself if it holds a line
break. -/
structure Request where
  input : String
  output : String
  assets : Option String
  customStyle : Option String
  customScript : Option String
  minify : Bool
  title : Option String
  theme : Option String
  metadata : Metadata
  libraries : List AddedLibrary

namespace AddedLibrary

/-- What flaws call a declaration, where a library in short was possible as well. -/
def declarationLabel : String := "function-after[_check_kind_requirements(), DependencyDeclaration]"

/-- Reads a library; what is neither a declaration nor a text has the flaws of both. -/
def ofValue (v : Value) : Form AddedLibrary :=
  match (Form.text v).outcome with
  | .ok s => .ok (.short s)
  | .error e =>
    match (Declaration.ofValue v).outcome with
    | .ok d => .ok (.declared d)
    | .error f =>
      Form.apply (Form.under (.field declarationLabel) ⟨.error f⟩)
        (Form.under (.field "str") (⟨.error e⟩ : Form AddedLibrary))

def toValue : AddedLibrary → Value
  | .declared d => d.toValue
  | .short s => .text s

end AddedLibrary

namespace Request

/-- What a request lacks. -/
def complaint? (r : Request) : Option String :=
  if r.input.isEmpty then some "Input script path is required"
  else if r.output.isEmpty then some "Output path is required"
  else none

/-- Reads a request. -/
def ofValue : Value → Form Request :=
  Form.record "CompileRequest" fun es =>
    Form.ruled complaint? (mk <$> Form.required es ["input"] Form.text
      <*> Form.required es ["output"] Form.text
      <*> Form.maybe es "assets_dir" Form.text
      <*> Form.maybe es "custom_css" Form.text
      <*> Form.maybe es "custom_js" Form.text
      <*> Form.withDefault es ["minify"] false Form.bool
      <*> Form.maybe es "title" Form.text
      <*> Form.maybe es "theme" Form.text
      <*> Form.withDefault es ["metadata"] .empty Metadata.ofValue
      <*> Form.withDefault es ["dependencies"] [] (Form.list AddedLibrary.ofValue))

def toValue (r : Request) : Value :=
  .record [("input", .text r.input), ("output", .text r.output), ("assets_dir", .ofOption r.assets),
    ("custom_css", .ofOption r.customStyle), ("custom_js", .ofOption r.customScript),
    ("minify", .bool r.minify), ("title", .ofOption r.title), ("theme", .ofOption r.theme),
    ("metadata", r.metadata.toValue),
    ("dependencies", .ofList (r.libraries.map AddedLibrary.toValue))]

end Request
end Storybind
