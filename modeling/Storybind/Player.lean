import Storybind.Page.Theme
import Storybind.Player.Stock.Assets
import Storybind.Player.Stock.Components
import Storybind.Player.Stock.Document
import Storybind.Player.Stock.Games
import Storybind.Player.Stock.Scenes
import Storybind.Player.Stock.Utilities
import Storybind.Volume

/-!
The player: the template of pages, a style sheet and the scripts that play a story in a browser.
They are built in or lie in a directory; there a missing template is an error, anything else that is
missing is left out with a warning.
-/

namespace Storybind

/-- A script of the player: the name of its slot, its file and its built-in text. -/
structure PlayerScript where
  slot : String
  file : String
  stock : String

/-- Where the player is, the template that is used in place of its own, and the usual theme. -/
structure Player where
  directory : Option Path
  template : Option Path
  usualTheme : String

/-- Why a template cannot be loaded. -/
inductive TemplateError where
  | missing (path : String) (e : FileError)
  | escaped (e : TextFileError)

def TemplateError.message : TemplateError → String
  | .missing path e => "HTML template could not be loaded from " ++ path ++ ": " ++ e.message
  | .escaped e => e.message

namespace Player

/-- The built-in player. -/
def builtIn : Player := ⟨none, none, "base"⟩

/-- The scripts of the player, in the order in which pages hold them. -/
def scripts : List PlayerScript := [
  ⟨"UTILS_POLYFILLS_JS", "utils/polyfills.js", Stock.polyfills⟩,
  ⟨"RUNTIME_ASSET_MANAGER_JS", "runtime/asset-manager.js", Stock.assets⟩,
  ⟨"RUNTIME_COMPONENT_MANAGER_JS", "runtime/component-manager.js", Stock.components⟩,
  ⟨"RUNTIME_SCENE_MANAGER_JS", "runtime/scene-manager.js", Stock.scenes⟩,
  ⟨"RUNTIME_SAVE_MANAGER_JS", "runtime/save-manager.js", Stock.saves⟩,
  ⟨"RUNTIME_GAME_INITIALIZATION_JS", "runtime/game-initialization.js", Stock.start⟩,
  ⟨"UTILS_DEBUG_HELPERS_JS", "utils/debug-helpers.js", Stock.debugging⟩]

/-- The names of the slots of scripts, in order. -/
def slots : List String := scripts.map (·.slot)

/-- The template at a path. -/
def templateAt (w : Workspace) (p : Path) : Except TemplateError String :=
  match w.readText p with
  | .ok s => .ok s
  | .error (.file e) => if e.isSystem then .error (.missing p.toText e) else .error (.escaped (.file e))
  | .error e => .error (.escaped e)

/-- Where the template of pages is, if it is not built in. -/
def templatePath? (player : Player) : Option Path :=
  player.template.or (player.directory.map fun d => d.child "assets/template.html")

/-- The template of pages. -/
def loadTemplate (w : Workspace) (player : Player) : Except TemplateError String :=
  match player.templatePath? with
  | some p => templateAt w p
  | none => .ok Stock.template

/-- The text of a file of the player, or the complaint that it is missing. -/
def loadFile (w : Workspace) (p : Path) : Except TextFileError (Except FileError String) :=
  match w.readText p with
  | .ok s => .ok (.ok s)
  | .error (.file e) => if e.isSystem then .ok (.error e) else .error (.file e)
  | .error e => .error e

/-- The style sheet of the player, and warnings. -/
def loadLook (w : Workspace) (player : Player) : Except TextFileError (String × List String) :=
  match player.directory with
  | none => .ok (Stock.look, [])
  | some d =>
    let p := d.child "assets/theme.css"
    (loadFile w p).map fun r =>
      match r with
      | .ok s => (s, [])
      | .error e => ("", ["Theme stylesheet not loaded (" ++ p.toText ++ "): " ++ e.message])

/-- Scripts by slot, with the warnings on the way. -/
structure Loaded where
  scripts : List (String × String)
  warnings : List String

/-- Takes in a script whose text is at a path, or the complaint that it is missing. -/
def Loaded.add (done : Loaded) (slot : String) (p : Path) : Except FileError String → Loaded
  | .ok s => { done with scripts := done.scripts ++ [(slot, s)] }
  | .error e => { done with warnings := done.warnings ++
      ["Runtime fragment " ++ slot ++ " not loaded (" ++ p.toText ++ "): " ++ e.message] }

/-- Loads scripts for slots, up to the first whose text cannot be read. -/
def loadEach (w : Workspace) : List (String × Path) → Loaded → Loaded × Option TextFileError
  | [], done => (done, none)
  | (slot, p) :: rest, done =>
    match loadFile w p with
    | .error e => (done, some e)
    | .ok r => loadEach w rest (done.add slot p r)

/-- The scripts of the player. -/
def loadScripts (w : Workspace) (player : Player) : Loaded × Option TextFileError :=
  match player.directory with
  | none => (⟨scripts.map fun s => (s.slot, s.stock), []⟩, none)
  | some d => loadEach w (scripts.map fun s => (s.slot, d.child s.file)) ⟨[], []⟩

/-- The scripts of the player where all of them can be read. -/
def allScripts (w : Workspace) (player : Player) : Except TextFileError Loaded :=
  match player.loadScripts w with
  | (loaded, none) => .ok loaded
  | (_, some e) => .error e

end Player
end Storybind
