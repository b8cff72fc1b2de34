import Storybind.Page.Template
import Storybind.Player

/-!
The scripts of a page: bundled libraries, inline libraries, the scripts of the player, components
and the author's own script, each in an element of its own. A script of the player that the template
places through a slot of its own is not repeated.
-/

namespace Storybind.Page

/-- The script texts that a page takes in beside those of the player. -/
structure ScriptTexts where
  bundled : String
  inlined : String
  components : String
  custom : String

/-- A script that is left out if it is blank. -/
def filledScript (label content : String) : List String :=
  if Text.isBlankText content then [] else [scriptElement label content]

/-- The scripts of the player that the template does not place, in order. -/
def playerScripts (template : String) (scripts : List (String × String)) : List String :=
  Player.slots.flatMap fun slot =>
    match scripts.lookup slot with
    | none => []
    | some content =>
      if content.isEmpty || Text.contains template (Template.written slot) then []
      else [scriptElement slot content]

/-- The script elements of a page. -/
def scriptElements (template : String) (scripts : List (String × String)) (texts : ScriptTexts) :
    List String :=
  filledScript "Bundled dependencies" texts.bundled ++
    filledScript "Inline dependencies" texts.inlined ++ playerScripts template scripts ++
    filledScript "Component JavaScript" texts.components ++
    filledScript "Custom JavaScript" texts.custom

/-- The scripts of a page. -/
def scriptBlock (template : String) (scripts : List (String × String)) (texts : ScriptTexts) :
    String :=
  Text.join "\n" (scriptElements template scripts texts)

end Storybind.Page
