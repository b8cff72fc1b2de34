import Storybind.Asset.Collect
import Storybind.Compile.Output
import Storybind.Compile.Request
import Storybind.Compile.Story
import Storybind.Page.Document

/-!
Compiles: a story is read, its scenes, assets, components and libraries are gathered, the page is
put together and saved. What is gathered is a value of its own, so that everything before the save
leaves the files alone; only the fetch cache outlives a compile.
-/

namespace Storybind

/-- What compiles share: settings, presets, the player, the engine, the minifier of documents, the
limit for embedded images, the time that pages name, the mark of temporary files and what the file
system refuses. -/
structure Compiler where
  settings : Settings
  presets : Presets
  player : Player
  engine : Engine
  minifier : Page.DocumentMinifier
  embedLimit : Int
  now : String
  mark : String
  refusals : Output.Refusals

/-- What a compile works on. -/
structure World where
  workspace : Workspace
  fetch : Fetch.State

/-- Counts of what a page holds, and its size in bytes. -/
structure Stats where
  scenes : Nat
  assets : Nat
  components : Nat
  libraries : Nat
  size : Nat
deriving DecidableEq, Repr

def Stats.none : Stats := ⟨0, 0, 0, 0, 0⟩

/-- The result of a compile. -/
structure Result where
  outcome : Except Failure Stats
  output : String
  warnings : List String

/-- A story with its scenes, and the full path that it was read from. -/
structure Tale where
  story : Story
  script : Option Path
  scenesText : String
  scenes : List Value

/-- What the player gives to a page. -/
structure Outfit where
  template : String
  scripts : List (String × String)
  look : String
  warnings : List String

/-- What a story needs besides: its libraries, assets and components. -/
structure Supplies where
  libraries : List Declaration
  assets : List Asset
  mounts : List Mount
  parts : Parts
  warnings : List String
  laterWarnings : List String

/-- All that is known of a page before its libraries are fetched. -/
structure Draft where
  tale : Tale
  outfit : Outfit
  supplies : Supplies
  metadata : Entries
  title : String
  theme : Theme
  base : Path

/-- A page that is ready to be saved. -/
structure Finished where
  document : Page.Document
  stats : Stats
  warnings : List String

namespace Compiler

/-- The metadata of a page: those of the request, with title and description of the story before
them, and the variables and styles of the story. -/
def metadataOf (r : Request) (story : Story) : Entries :=
  let given := r.metadata.setEntries
  let titled := match Value.truthy? "title" story.sections with
    | some t => Entries.set "title" t given
    | none =>
      match r.title, Value.truthy? "title" given with
      | some t, none => if t.isEmpty then given else Entries.set "title" (.text t) given
      | _, _ => given
  let described := match Value.truthy? "description" story.sections with
    | some d => Entries.set "description" d titled
    | none => titled
  Entries.set "styles" (story.mapping "styles")
    (Entries.set "variables" (story.mapping "variables") described)

/-- The title of a page. -/
def titleOf (r : Request) (metadata : Entries) : String :=
  match r.title.filter fun t => !t.isEmpty with
  | some t => t
  | none => Page.Content.field metadata "title" "VN Game"

/-- Takes in the libraries that the caller adds. -/
def addLibraries (c : Compiler) : List AddedLibrary → Declared → Declared × Option EntryError
  | [], d => (d, none)
  | .declared x :: rest, d =>
    addLibraries c rest { d with declarations := d.declarations ++ [x] }
  | .short s :: rest, d =>
    match Declared.entry c.presets c.settings.packageAddress (.text s) d with
    | (d, none) => addLibraries c rest d
    | r => r

/-- The libraries of the story and those that the caller adds; of one name the last counts. -/
def librariesOf (c : Compiler) (r : Request) (story : Story) :
    Except EntryError (List Declaration × List String) :=
  match Declared.ofScript c.presets c.settings.packageAddress (story.part "dependencies")
      (story.part "dependencies_quick") with
  | (_, some e) => .error e
  | (own, none) =>
    match addLibraries c r.libraries .empty with
    | (_, some e) => .error e
    | (added, none) =>
      .ok (Declaration.merge [own.declarations, added.declarations], own.warnings ++ added.warnings)

/-- The assets of the directory that is asked for and of the story. -/
def assetsOf (c : Compiler) (w : Workspace) (r : Request) (story : Story) :
    Except FileError Collected := do
  let found ← match r.assets with
    | some d => Asset.fromDirectory w (Asset.embedLimit c.embedLimit) d
    | none => pure .empty
  let listed := Asset.fromScript (story.part "assets")
  pure ⟨found.assets ++ listed.assets, found.warnings ++ listed.warnings⟩

/-- The mounted components of scenes and their files. -/
def componentsOf (w : Workspace) (script : Option Path) (scenes : List Value) :
    Except Breakdown (List Mount × Parts × List String) := do
  let places ← (Lookup.usual w script).mapError .lookup
  let found ← (Mount.extract w places scenes).mapError .mount
  let parts ← (Parts.load w places found.mounts).mapError .lookup
  pure (found.mounts, parts, found.warnings ++ parts.warnings)

/-- The story of a request and its scenes. -/
def tell (c : Compiler) (w : Workspace) (r : Request) : Except Stop Tale := do
  let (text, script) ← Story.read w r.input
  let story ← Story.ofText text
  let scenesText ← story.scenesText
  let scenes ← c.engine.run scenesText
  pure ⟨story, script, scenesText, scenes⟩

/-- What the player gives. -/
def outfit (c : Compiler) (w : Workspace) : Except Stop Outfit := do
  let template ← (c.player.loadTemplate w).mapError .ofTemplate
  let loaded ← (c.player.allScripts w).mapError fun e => .breakdown (.text e)
  let (look, lookWarnings) ← (c.player.loadLook w).mapError fun e => .breakdown (.text e)
  pure ⟨template, loaded.scripts, look, loaded.warnings ++ lookWarnings⟩

/-- What is gathered for a story. -/
def supplies (c : Compiler) (w : Workspace) (r : Request) (tale : Tale) :
    Except Breakdown Supplies := do
  let (libraries, libraryWarnings) ← (librariesOf c r tale.story).mapError .entry
  let assets ← (assetsOf c w r tale.story).mapError .file
  let (mounts, parts, componentWarnings) ← componentsOf w tale.script tale.scenes
  pure ⟨libraries, assets.assets, mounts, parts, libraryWarnings, assets.warnings ++ componentWarnings⟩

/-- All of a page but its libraries. -/
def draft (c : Compiler) (w : Workspace) (r : Request) : Except Stop Draft := do
  let tale ← c.tell w r
  let outfit ← c.outfit w
  let supplies ← (c.supplies w r tale).mapError .breakdown
  let metadata := metadataOf r tale.story
  pure {
    tale := tale
    outfit := outfit
    supplies := supplies
    metadata := metadata
    title := titleOf r metadata
    theme := Theme.choose metadata r.theme c.player.usualTheme
    base := (tale.script.map Path.parent).getD w.cwd }

/-- The text of a file that the author adds to a page; a file that cannot be read is left out with a
warning. -/
def customText (w : Workspace) (label : String) (file : Option String) :
    Except Breakdown (String × List String) :=
  match file.filter fun f => !f.isEmpty with
  | none => .ok ("", [])
  | some f =>
    let leftOut (e : TextFileError) : String × List String :=
      ("", ["Failed to load custom " ++ label ++ " file " ++ f ++ ": " ++ e.message])
    match w.readText (Path.ofString f) with
    | .ok s => .ok (s, [])
    | .error (.file e) => if e.isSystem then .ok (leftOut (.file e)) else .error (.file e)
    | .error e => .ok (leftOut e)

/-- What a page is made of. -/
def contentOf (c : Compiler) (r : Request) (d : Draft) (bundle : Bundle) (style script : String) :
    Page.Content :=
  let gameVariables := match d.tale.story.mapping "variables" with
    | .mapping _ es => es
    | _ => []
  { template := d.outfit.template
    scripts := d.outfit.scripts
    theme := d.theme
    look := d.outfit.look
    title := d.title
    metadata := d.metadata
    script := d.tale.scenesText
    scenes := d.tale.scenes
    gameVariables := gameVariables
    assets := d.supplies.assets
    mounts := d.supplies.mounts
    parts := d.supplies.parts
    bundle := bundle
    manifest := bundle.manifest (d.supplies.libraries.map (·.name)) c.presets.names
    generated := c.now
    customStyle := style
    customScript := script
    minify := r.minify }

/-- The page of a draft and its libraries. -/
def finish (c : Compiler) (w : Workspace) (r : Request) (d : Draft) (bundle : Bundle) :
    Except Breakdown Finished := do
  let (style, styleWarnings) ← customText w "CSS" r.customStyle
  let (script, scriptWarnings) ← customText w "JS" r.customScript
  let document ← ((contentOf c r d bundle style script).document c.minifier).mapError .data
  pure ⟨document,
    ⟨d.tale.scenes.length, d.supplies.assets.length, d.supplies.mounts.length,
      bundle.resolved.length, document.size⟩,
    d.outfit.warnings ++ d.supplies.warnings ++ d.supplies.laterWarnings ++ bundle.warnings ++
      styleWarnings ++ scriptWarnings ++ document.warnings⟩

/-- The page that a request asks for, and what fetching leaves behind. -/
def compose (c : Compiler) (r : Request) (world : World) : Except Stop Finished × Fetch.State :=
  let w := world.workspace
  match c.draft w r with
  | .error stop => (.error stop, world.fetch)
  | .ok d =>
    match Bundle.resolve w c.settings (some d.base) r.minify d.supplies.libraries world.fetch with
    | (.error e, fetch) => (.error (.breakdown (.fetch e)), fetch)
    | (.ok bundle, fetch) => ((c.finish w r d bundle).mapError .breakdown, fetch)

/-- Saves a page. -/
def save (c : Compiler) (r : Request) (w : Workspace) (page : Finished) : Course :=
  Output.save c.refusals c.mark w.volume w.cwd (Path.ofString r.output)
    (Text.encode page.document.text)

/-- Compiles what a request asks for. -/
def compile (c : Compiler) (r : Request) (world : World) : Except Breakdown Result × World :=
  match c.compose r world with
  | (.error (.failure f), fetch) => (.ok ⟨.error f, r.output, []⟩, { world with fetch := fetch })
  | (.error (.breakdown b), fetch) => (.error b, { world with fetch := fetch })
  | (.ok page, fetch) =>
    let saving := c.save r world.workspace page
    let world : World := ⟨{ world.workspace with volume := saving.final }, fetch⟩
    match saving.refusal with
    | none => (.ok ⟨.ok page.stats, r.output, page.warnings⟩, world)
    | some e =>
      if e.isSystem then (.ok ⟨.error (.notSaved r.output e), r.output, page.warnings⟩, world)
      else (.error (.file e), world)

/-- Compiles requests one after another. -/
def compileAll (c : Compiler) : List Request → World → List (Except Breakdown Result) × World
  | [], world => ([], world)
  | r :: rest, world =>
    let (result, world) := c.compile r world
    let (results, world) := compileAll c rest world
    (result :: results, world)

end Compiler
end Storybind
