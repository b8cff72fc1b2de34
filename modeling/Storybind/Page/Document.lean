import Storybind.Asset.Manifest
import Storybind.Component.Record
import Storybind.Dependency.Bundle
import Storybind.Json.Writer
import Storybind.Page.Scripts
import Storybind.Page.Stylesheet

/-!
The document of a page: the data that the player reads, and the template filled with style sheet,
scripts, data and the texts of its head.
-/

namespace Storybind

namespace Page

/-- The version of the program. -/
def version : String := "0.1.0"

/-- All that a page is made of. -/
structure Content where
  template : String
  scripts : List (String × String)
  theme : Theme
  look : String
  title : String
  metadata : Entries
  script : String
  scenes : List Value
  gameVariables : Entries
  assets : List Asset
  mounts : List Mount
  parts : Parts
  bundle : Bundle
  manifest : Value
  generated : String
  customStyle : String
  customScript : String
  minify : Bool

namespace Content

/-- The data that the player reads. -/
def data (c : Content) : Value :=
  .record [
    ("gameData", .record [("script", .text c.script), ("scenes", .ofList c.scenes),
      ("metadata", .ofEntries c.metadata), ("variables", .ofEntries c.gameVariables),
      ("assets", .ofEntries (Asset.pageMap c.assets)),
      ("components", .ofList (c.mounts.map Mount.pageEntry))]),
    ("config", .record [("theme", .text c.theme.name), ("minified", .bool c.minify),
      ("version", .text version), ("generated", .text c.generated),
      ("dependencies", c.manifest)])]

/-- The script that gives the data to the player. -/
def dataScript (c : Content) : Except Json.WriteError String :=
  (Json.write ⟨false, if c.minify then none else some 2⟩ c.data).map fun json =>
    "window.VN_RUNTIME_DATA = " ++ guardData json ++ ";"

/-- The keywords of a page: its tags. -/
def keywords (metadata : Entries) : String :=
  match Value.truthy? "tags" metadata with
  | none => ""
  | some (.list _ tags) => Text.join ", " (tags.map Value.display)
  | some v => v.display

/-- The text of a metadata field if it counts as present. -/
def field (metadata : Entries) (name default : String) : String :=
  ((Value.truthy? name metadata).map Value.display).getD default

/-- The texts of the slots of the template. -/
def slotTexts (c : Content) (dataScript : String) : List (String × String) :=
  let styles : Styles := ⟨c.bundle.style, c.look, c.parts.styleText, c.customStyle⟩
  let texts : ScriptTexts :=
    ⟨c.bundle.script, c.bundle.inlineScript, c.parts.scriptText, c.customScript⟩
  [("VN_TITLE", Text.escapeMarkup c.title),
    ("META_DESCRIPTION", Text.escapeMarkup (field c.metadata "description" c.title)),
    ("META_AUTHOR", Text.escapeMarkup (field c.metadata "author" "")),
    ("META_KEYWORDS", Text.escapeMarkup (keywords c.metadata)),
    ("GENERATION_TIMESTAMP", Text.escapeMarkup c.generated),
    ("SCENE_COUNT", toString c.scenes.length), ("THEME_NAME", Text.escapeMarkup c.theme.name),
    ("DEPENDENCY_SCRIPTS", c.bundle.markup),
    ("BUNDLED_CSS", stylesheet c.theme styles c.minify), ("RUNTIME_DATA", dataScript),
    ("RUNTIME_SCRIPTS", scriptBlock c.template c.scripts texts)]

end Content

/-- A minifier of documents, which may fail with a complaint. -/
abbrev DocumentMinifier := String → Except String String

/-- A document with the warnings on the way. -/
structure Document where
  text : String
  warnings : List String

/-- The size of a document in bytes. -/
def Document.size (d : Document) : Nat := d.text.utf8ByteSize

/-- The minified document; if the minifier fails the document stays as it is, with a warning. -/
def Document.minified (minifier : DocumentMinifier) (text : String) : Document :=
  match minifier text with
  | .ok s => ⟨s, []⟩
  | .error complaint =>
    ⟨text, ["HTML minification failed, keeping unminified document: " ++ complaint]⟩

/-- The document of a page. -/
def Content.document (minifier : DocumentMinifier) (c : Content) :
    Except Json.WriteError Document := do
  let data ← c.dataScript
  let text := Template.fill c.template (c.slotTexts data) c.scripts
  pure (if c.minify then Document.minified minifier text else ⟨text, []⟩)

end Page
end Storybind
