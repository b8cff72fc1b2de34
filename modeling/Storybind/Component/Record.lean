import Storybind.Component.Mount
import Storybind.Form

/-!
Mounted components and their files as records of named fields.
-/

namespace Storybind

namespace Mount

/-- Reads a mount. -/
def ofValue : Value → Form Mount :=
  Form.record "ComponentMountDirective" fun es =>
    mk <$> Form.required es ["id"] Form.text
      <*> Form.required es ["component_name"] Form.text
      <*> Form.required es ["script_path"] Form.text
      <*> Form.maybe es "stylesheet_path" Form.text
      <*> Form.required es ["instance_id"] Form.text
      <*> Form.withDefault es ["config"] [] Form.textMapping
      <*> Form.required es ["scene_id"] Form.text
      <*> Form.required es ["instruction_index"] Form.int

/-- What the player reads about a mounted component. -/
def pageEntry (m : Mount) : Value :=
  .record [("id", .text m.id), ("componentName", .text m.component), ("scriptPath", .text m.script),
    ("cssPath", .ofOption m.stylesheet), ("instanceId", .text m.instanceName),
    ("config", .ofEntries m.settings), ("sceneId", .text m.scene),
    ("instructionIndex", .int m.instruction)]

end Mount

namespace Part

/-- Reads a file of a component. -/
def ofValue : Value → Form Part :=
  Form.record "ComponentPayload" fun es =>
    mk <$> Form.required es ["requested_path"] Form.text
      <*> Form.required es ["resolved_path"] Form.text
      <*> Form.required es ["component_name"] Form.text
      <*> Form.required es ["content"] Form.text

/-- A file of a component as a record. -/
def toValue (p : Part) : Value :=
  .record [("requested_path", .text p.requested), ("resolved_path", .text p.resolved),
    ("component_name", .text p.component), ("content", .text p.content)]

end Part

namespace Parts

/-- Reads the files of components. -/
def ofValue : Value → Form Parts :=
  Form.record "ComponentBundle" fun es =>
    mk <$> Form.withDefault es ["scripts"] [] (Form.list Part.ofValue)
      <*> Form.withDefault es ["styles"] [] (Form.list Part.ofValue)
      <*> Form.withDefault es ["missing"] [] (Form.list Form.text)
      <*> Form.withDefault es ["warnings"] [] (Form.list Form.text)

/-- The files of components as a record. -/
def toValue (p : Parts) : Value :=
  .record [("scripts", .ofList (p.scripts.map Part.toValue)),
    ("styles", .ofList (p.styles.map Part.toValue)),
    ("missing", .ofList (p.missing.map .text)), ("warnings", .ofList (p.warnings.map .text)),
    ("script_text", .text p.scriptText), ("style_text", .text p.styleText)]

end Parts
end Storybind
