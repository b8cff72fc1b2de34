import Storybind.Dependency.Declaration
import Storybind.Json.Writer
import Storybind.Text.Element

/-!
The markup that loads a library from its address: a link or a script element, or, where loading
hangs on a condition, a script that adds the element.
-/

namespace Storybind.Declaration

/-- The attributes about integrity and credentials. -/
def safetyAttributes (d : Declaration) : List Attribute :=
  Attribute.ofFilled "integrity" d.integrity ++
  (match d.crossorigin with
    | some c => [.valued "crossorigin" c.word]
    | none => [])

/-- The element that loads a library. -/
def element (d : Declaration) : Element :=
  let url := d.url.getD ""
  match d.format with
  | .stylesheet =>
    ⟨"link", [.valued "rel" "stylesheet", .valued "href" url] ++ d.safetyAttributes, false⟩
  | .script =>
    ⟨"script", [.valued "src" url] ++ d.safetyAttributes ++ Attribute.flagIf d.defer "defer" ++
      Attribute.flagIf d.async "async" ++
      (if d.isModule then [.valued "type" "module"] else []) ++
      Attribute.flagIf d.noModule "nomodule", true⟩

/-- A text if a condition holds. -/
def textIf (condition : Bool) (s : String) : List String := if condition then [s] else []

/-- A text as a script literal. -/
def literal (s : String) : String := String.ofList (Json.string true s)

/-- The script that adds the element where a condition holds. -/
def guarded (condition : String) (d : Declaration) : String :=
  let variable_ := match d.format with
    | .stylesheet => "link"
    | .script => "script"
  let url := match d.url with
    | some u => literal u
    | none => "null"
  let body := match d.format with
    | .stylesheet => ["  link.rel = 'stylesheet';", "  link.href = " ++ url ++ ";"]
    | .script =>
      ["  script.src = " ++ url ++ ";"] ++ textIf d.defer "  script.defer = true;" ++
        textIf d.async "  script.async = true;" ++ textIf d.isModule "  script.type = 'module';" ++
        textIf d.noModule "  script.noModule = true;"
  let integrity := match d.integrity with
    | some v =>
      textIf (!v.isEmpty) ("  " ++ variable_ ++ ".integrity = " ++ literal v ++ ";")
    | none => []
  let crossorigin := match d.crossorigin with
    | some c => ["  " ++ variable_ ++ ".crossOrigin = " ++ literal c.word ++ ";"]
    | none => []
  Text.join "\n"
    (["<!-- Load " ++ Text.escapeMarkup d.name ++ " conditionally -->", "<script>",
      "if (" ++ condition ++ ") \x7b",
      "  var " ++ variable_ ++ " = document.createElement('" ++ variable_ ++ "');"] ++ body ++
      integrity ++ crossorigin ++
      ["  document.head.appendChild(" ++ variable_ ++ ");", "\x7d", "</script>"])

/-- The markup that loads a library. -/
def tag (d : Declaration) : String :=
  match d.condition with
  | some c => if c.isEmpty then d.element.render else d.guarded c
  | none => d.element.render

end Storybind.Declaration
