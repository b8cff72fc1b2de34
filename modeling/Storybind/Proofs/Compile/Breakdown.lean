import Mathlib.Tactic
import Storybind.Proofs.Compile.Saving
import Storybind.Proofs.Compile.Supplies
import Storybind.Proofs.Dependency.Broken
import Storybind.Proofs.Json.Unwritable

/-!
What ends a compile without a result. Everything else that is wrong with a story, its files or its
libraries is told in the result.
-/

namespace Storybind

open Storybind.Except (Fails fails_bind fails_map fails_mapError mapError_eq_ok not_fails_pure)

/-- Whether steps end in a breakdown, and not in a failure that is reported. -/
def Broken {α : Type} (x : Except Stop α) : Prop := ∃ b, x = .error (.breakdown b)

section

variable {ε α β : Type}

theorem broken_bind {x : Except Stop α} {f : α → Except Stop β} :
    Broken (x >>= f) ↔ Broken x ∨ ∃ a, x = .ok a ∧ Broken (f a) := by
  cases x with
  | error e => simp [Broken, bind, Except.bind]
  | ok a => simp [Broken, bind, Except.bind]

theorem broken_mapError {x : Except ε α} {f : ε → Breakdown} :
    Broken (x.mapError fun e => .breakdown (f e)) ↔ Fails x := by
  cases x with
  | error e => simp [Broken, Fails, Except.mapError]
  | ok a => simp [Broken, Fails, Except.mapError]

theorem not_broken_pure (a : α) : ¬Broken (pure a : Except Stop α) := by
  rintro ⟨b, hb⟩
  cases hb

end

/-! ### The story -/

namespace Story

/-- What about a story ends a compile without a result. -/
inductive Breaks (engine : Engine) (w : Workspace) (input : String) : Prop where
  | input (hline : '\n' ∉ input.toList)
      (hlong : w.volume.locate w.cwd (Path.ofString input) = .error .nameTooLong)
  | scalar {text : String} {script : Option Path} {e : Yaml.ScalarError}
      (hread : read w input = .ok (text, script)) (hload : Yaml.load text = .error (.scalar e))
  | digits {text : String} {script : Option Path} {story : Story}
      (hread : read w input = .ok (text, script)) (hstory : ofText text = .ok story)
      (hdigits : Yaml.entriesHoldUnwritable story.scenes = true)
  | scenes {text scenesText : String} {script : Option Path} {story : Story} {e : SceneError}
      (hread : read w input = .ok (text, script)) (hstory : ofText text = .ok story)
      (hwritten : story.scenesText = .ok scenesText) (hengine : engine scenesText = .error e)
      (hescapes : Engine.isFailure e = false)

theorem broken_read {w : Workspace} {input : String} :
    Broken (read w input) ↔ '\n' ∉ input.toList ∧
      w.volume.locate w.cwd (Path.ofString input) = .error .nameTooLong := by
  have hfile : Fails (w.isFile (Path.ofString input)) ↔ _ := Volume.fails_leadsTo
  rw [← hfile]
  unfold read
  by_cases hline : '\n' ∈ input.toList
  · simp [Broken, hline]
  · simp only [List.contains_eq_mem, hline, decide_false, Bool.false_eq_true, if_false,
      not_false_eq_true, true_and]
    cases w.isFile (Path.ofString input) with
    | error e => simp [Broken, Fails]
    | ok there =>
      cases there with
      | false => simp [Broken, Fails]
      | true =>
        simp only
        cases w.readText (Path.ofString input) with
        | error e => simp [Broken, Fails]
        | ok text => simp [Broken, Fails]

theorem broken_ofText {text : String} :
    Broken (ofText text) ↔ ∃ e, Yaml.load text = .error (.scalar e) := by
  unfold ofText
  cases Yaml.load text with
  | ok v =>
    cases hv : ofValue v with
    | error f => simp [Broken, Except.mapError, hv]
    | ok story => simp [Broken, Except.mapError, hv]
  | error e =>
    cases e with
    | refused r => simp [Broken]
    | scalar e => simp [Broken]

theorem broken_scenesText {s : Story} :
    Broken s.scenesText ↔ Yaml.entriesHoldUnwritable s.scenes = true := by
  unfold scenesText
  split
  · next h => simp [Broken, h]
  · next h => simp [Broken, h]

end Story

theorem Engine.broken_run {engine : Engine} {text : String} :
    Broken (engine.run text) ↔ ∃ e, engine text = .error e ∧ isFailure e = false := by
  unfold run
  cases engine text with
  | ok scenes => simp [Broken, Except.mapError]
  | error e => cases h : isFailure e <;> simp [Broken, Except.mapError, h]

namespace Compiler

variable {c : Compiler} {w : Workspace} {r : Request}

theorem broken_tell : Broken (c.tell w r) ↔ Story.Breaks c.engine w r.input := by
  unfold tell
  simp only [broken_bind, Story.broken_read, Story.broken_ofText, Story.broken_scenesText,
    Engine.broken_run, not_broken_pure, and_false, exists_false, or_false, Prod.exists]
  constructor
  · rintro (⟨hline, hlong⟩ | ⟨text, script, hread, ⟨e, hload⟩ | ⟨story, hstory, hstages⟩⟩)
    · exact .input hline hlong
    · exact .scalar hread hload
    · rcases hstages with hdigits | ⟨scenesText, hwritten, e, hengine, hescapes⟩
      · exact .digits hread hstory hdigits
      · exact .scenes hread hstory hwritten hengine hescapes
  · intro h
    cases h with
    | input hline hlong => exact .inl ⟨hline, hlong⟩
    | scalar hread hload => exact .inr ⟨_, _, hread, .inl ⟨_, hload⟩⟩
    | digits hread hstory hdigits => exact .inr ⟨_, _, hread, .inr ⟨_, hstory, .inl hdigits⟩⟩
    | scenes hread hstory hwritten hengine hescapes =>
      exact .inr ⟨_, _, hread, .inr ⟨_, hstory, .inr ⟨_, hwritten, _, hengine, hescapes⟩⟩⟩

end Compiler

/-! ### The player -/

namespace Player

variable {w : Workspace} {player : Player}

/-- The files of a player in a directory, which may be missing. -/
def files : List String := scripts.map (·.file) ++ ["assets/theme.css"]

/-- What about a player ends a compile without a result. -/
inductive Breaks (w : Workspace) (player : Player) : Prop where
  | template {p : Path} (hpath : player.templatePath? = some p) (h : w.Garbled p)
  | file {template file : String} {d : Path} (htemplate : player.loadTemplate w = .ok template)
      (hdirectory : player.directory = some d) (hfile : file ∈ files) (h : w.Garbled (d.child file))

theorem loadTemplate_eq_escaped :
    (∃ e, player.loadTemplate w = .error (.escaped e)) ↔
      ∃ p, player.templatePath? = some p ∧ w.Garbled p := by
  unfold loadTemplate
  cases player.templatePath? with
  | none => simp
  | some p =>
    simp only [Option.some.injEq, exists_eq_left', ← Workspace.readText_eq_garbled]
    unfold templateAt
    cases w.readText p with
    | ok s => simp
    | error e =>
      cases e with
      | file e => cases h : e.isSystem <;> simp [Workspace.isMissing, h]
      | utf8 e => simp [Workspace.isMissing]

theorem fails_loadFile {p : Path} : Fails (loadFile w p) ↔ w.Garbled p := by
  rw [← Workspace.readText_eq_garbled]
  unfold loadFile
  cases w.readText p with
  | ok s => simp [Fails]
  | error e =>
    cases e with
    | file e => cases h : e.isSystem <;> simp [Fails, Workspace.isMissing, h]
    | utf8 e => simp [Fails, Workspace.isMissing]

/-- Loading scripts breaks off exactly at a file that cannot be read. -/
theorem loadEach_isSome {files : List (String × Path)} {done : Loaded} :
    (loadEach w files done).2.isSome ↔ ∃ file ∈ files, w.Garbled file.2 := by
  induction files generalizing done with
  | nil => simp [loadEach]
  | cons file rest ih =>
    obtain ⟨slot, p⟩ := file
    have hfile : Fails (loadFile w p) ↔ w.Garbled p := fails_loadFile
    rw [List.exists_mem_cons_iff, ← hfile, loadEach]
    cases loadFile w p with
    | error e => simp [Fails]
    | ok text => simp [Fails, ih]

theorem fails_allScripts :
    Fails (player.allScripts w) ↔
      ∃ d, player.directory = some d ∧ ∃ s ∈ scripts, w.Garbled (d.child s.file) := by
  unfold allScripts loadScripts
  cases player.directory with
  | none => simp [Fails]
  | some d =>
    have hfiles : (∃ s ∈ scripts, w.Garbled (d.child s.file)) ↔
        ∃ file ∈ scripts.map fun s => (s.slot, d.child s.file), w.Garbled file.2 := by
      simp
    simp only [Option.some.injEq, exists_eq_left']
    rw [hfiles, ← loadEach_isSome]
    cases loadEach w (scripts.map fun s => (s.slot, d.child s.file)) ⟨[], []⟩ with
    | mk loaded problem => cases problem <;> simp [Fails]

theorem fails_loadLook :
    Fails (player.loadLook w) ↔
      ∃ d, player.directory = some d ∧ w.Garbled (d.child "assets/theme.css") := by
  unfold loadLook
  cases player.directory with
  | none => simp [Fails]
  | some d =>
    simp only [Option.some.injEq, exists_eq_left', fails_map, fails_loadFile]

end Player

namespace Compiler

variable {c : Compiler} {w : Workspace} {r : Request}

theorem broken_outfit : Broken (c.outfit w) ↔ Player.Breaks w c.player := by
  have htemplate : Broken ((c.player.loadTemplate w).mapError .ofTemplate) ↔
      ∃ e, c.player.loadTemplate w = .error (.escaped e) := by
    cases c.player.loadTemplate w with
    | ok s => simp [Broken, Except.mapError]
    | error e => cases e <;> simp [Broken, Except.mapError, Stop.ofTemplate]
  unfold outfit
  simp only [broken_bind, htemplate, broken_mapError, mapError_eq_ok, not_broken_pure, and_false,
    exists_false, or_false, Player.loadTemplate_eq_escaped, Player.fails_loadLook]
  constructor
  · rintro (⟨p, hpath, h⟩ | ⟨template, hread, hscripts | ⟨loaded, -, d, hdirectory, h⟩⟩)
    · exact .template hpath h
    · obtain ⟨d, hdirectory, s, hs, h⟩ := Player.fails_allScripts.mp hscripts
      exact .file hread hdirectory (List.mem_append_left _ (List.mem_map_of_mem hs)) h
    · exact .file hread hdirectory (List.mem_append_right _ (List.mem_singleton.mpr rfl)) h
  · intro h
    cases h with
    | template hpath h => exact .inl ⟨_, hpath, h⟩
    | file hread hdirectory hfile h =>
      refine .inr ⟨_, hread, ?_⟩
      rcases List.mem_append.mp hfile with hscript | hlook
      · obtain ⟨s, hs, rfl⟩ := List.mem_map.mp hscript
        exact .inl (Player.fails_allScripts.mpr ⟨_, hdirectory, s, hs, h⟩)
      · rw [List.mem_singleton.mp hlook] at h
        -- the style sheet is only read where all scripts are
        cases hscripts : c.player.allScripts w with
        | error e => exact .inl ⟨e, rfl⟩
        | ok loaded => exact .inr ⟨loaded, rfl, _, hdirectory, h⟩

end Compiler

/-! ### The page -/

namespace Compiler

variable {c : Compiler} {w : Workspace} {r : Request}

theorem fails_customText {label : String} {file : Option String} :
    Fails (customText w label file) ↔ ∃ f, file = some f ∧ f.isEmpty = false ∧
      '\x00' ∈ (Path.ofString f).toText.toList := by
  unfold customText
  cases file with
  | none => simp [Fails]
  | some f =>
    rw [Option.filter_some]
    simp only [Option.some.injEq, exists_eq_left', ← Workspace.readText_eq_file (w := w)]
    cases f.isEmpty with
    | true => simp [Fails]
    | false =>
      simp only [Bool.not_false, if_true, true_and]
      cases w.readText (Path.ofString f) with
      | ok s => simp [Fails]
      | error e =>
        cases e with
        | file e => cases h : e.isSystem <;> simp [Fails, h]
        | utf8 e => simp [Fails]

theorem fails_document {content : Page.Content} :
    Fails (content.document c.minifier) ↔ Json.Unwritable [] content.data := by
  unfold Page.Content.document Page.Content.dataScript
  simp only [fails_bind, fails_map, Json.fails_write, not_fails_pure, and_false, exists_false,
    or_false]

theorem fails_finish {d : Draft} {bundle : Bundle} :
    Fails (c.finish w r d bundle) ↔
      (∃ f, (r.customStyle = some f ∨ r.customScript = some f) ∧ f.isEmpty = false ∧
        '\x00' ∈ (Path.ofString f).toText.toList) ∨
      ∃ style script, customText w "CSS" r.customStyle = .ok style ∧
        customText w "JS" r.customScript = .ok script ∧
        Json.Unwritable [] (c.contentOf r d bundle style.1 script.1).data := by
  unfold finish
  simp only [fails_bind, fails_mapError, not_fails_pure, and_false, exists_false, or_false,
    fails_document]
  constructor
  · rintro (hstyle | ⟨style, hstyle, hscript | ⟨script, hscript, h⟩⟩)
    · obtain ⟨f, hf, hempty, h⟩ := fails_customText.mp hstyle
      exact .inl ⟨f, .inl hf, hempty, h⟩
    · obtain ⟨f, hf, hempty, h⟩ := fails_customText.mp hscript
      exact .inl ⟨f, .inr hf, hempty, h⟩
    · exact .inr ⟨style, script, hstyle, hscript, h⟩
  · rintro (⟨f, hf | hf, hempty, h⟩ | ⟨style, script, hstyle, hscript, h⟩)
    · exact .inl (fails_customText.mpr ⟨f, hf, hempty, h⟩)
    · cases hstyle : customText w "CSS" r.customStyle with
      | error e => exact .inl ⟨e, rfl⟩
      | ok style => exact .inr ⟨style, rfl, .inl (fails_customText.mpr ⟨f, hf, hempty, h⟩)⟩
    · exact .inr ⟨style, hstyle, .inr ⟨script, hscript, h⟩⟩

/-- What fetching gives for the libraries of a draft. -/
def bundleOf (c : Compiler) (r : Request) (world : World) (d : Draft) :
    Except Fetch.Breakdown Bundle :=
  (Bundle.resolve world.workspace c.settings (some d.base) r.minify d.supplies.libraries
    world.fetch).1

/-- What about a page ends a compile without a result, once all but its libraries is known. -/
inductive PageBreaks (c : Compiler) (r : Request) (world : World) (d : Draft) : Prop where
  | location {library : Declaration} (hlibrary : library ∈ d.supplies.libraries)
      (hkind : library.kind = .bundled)
      (h : Fails (Fetch.cacheKey world.workspace (some d.base) (library.url.getD "")))
  | cached {library : Declaration} {key : String} (hlibrary : library ∈ d.supplies.libraries)
      (hkind : library.kind = .bundled)
      (hkey : Fetch.cacheKey world.workspace (some d.base) (library.url.getD "") = .ok key)
      (h : Fails (Fetch.cached? library key world.fetch.cache))
  | attempt (h : Download.BreaksInRounds world.workspace c.settings (some d.base)
      (Fetch.maxAttempts c.settings) ((Declaration.byPriority d.supplies.libraries).map
        (Download.start world.workspace (some d.base) world.fetch.cache)) world.fetch)
  | added {bundle : Bundle} {f : String} (hbundle : bundleOf c r world d = .ok bundle)
      (hf : r.customStyle = some f ∨ r.customScript = some f) (hempty : f.isEmpty = false)
      (h : '\x00' ∈ (Path.ofString f).toText.toList)
  | data {bundle : Bundle} {style script : String × List String}
      (hbundle : bundleOf c r world d = .ok bundle)
      (hstyle : customText world.workspace "CSS" r.customStyle = .ok style)
      (hscript : customText world.workspace "JS" r.customScript = .ok script)
      (h : Json.Unwritable [] (c.contentOf r d bundle style.1 script.1).data)

/-- All that ends a compile without a result. -/
inductive Breaks (c : Compiler) (r : Request) (world : World) : Prop where
  | story (h : Story.Breaks c.engine world.workspace r.input)
  | player {tale : Tale} (htale : c.tell world.workspace r = .ok tale)
      (h : Player.Breaks world.workspace c.player)
  | supplies {tale : Tale} {outfit : Outfit} (htale : c.tell world.workspace r = .ok tale)
      (houtfit : c.outfit world.workspace = .ok outfit)
      (h : Supplies.Breaks c world.workspace r tale)
  | page {d : Draft} (hdraft : c.draft world.workspace r = .ok d) (h : PageBreaks c r world d)
  | saved {page : Finished} {e : FileError} (hpage : (c.compose r world).1 = .ok page)
      (hrefusal : (c.save r world.workspace page).refusal = some e) (h : e.isSystem = false)

variable {world : World}

theorem broken_draft :
    Broken (c.draft w r) ↔ Story.Breaks c.engine w r.input ∨
      ∃ tale, c.tell w r = .ok tale ∧ (Player.Breaks w c.player ∨
        ∃ outfit, c.outfit w = .ok outfit ∧ Supplies.Breaks c w r tale) := by
  have hsupplies (tale : Tale) : Broken ((c.supplies w r tale).mapError .breakdown) ↔ _ :=
    broken_mapError.trans fails_supplies
  unfold draft
  simp only [broken_bind, broken_tell, broken_outfit, hsupplies, not_broken_pure, and_false,
    exists_false, or_false]

theorem pageBreaks_iff {d : Draft} :
    PageBreaks c r world d ↔ Fails (bundleOf c r world d) ∨
      ∃ bundle, bundleOf c r world d = .ok bundle ∧
        Fails (c.finish world.workspace r d bundle) := by
  have hbundle : Fails (bundleOf c r world d) ↔ _ := Bundle.fails_resolve
  simp only [hbundle, fails_finish]
  constructor
  · intro h
    cases h with
    | location hlibrary hkind h => exact .inl (.inl ⟨_, hlibrary, hkind, .inl h⟩)
    | cached hlibrary hkind hkey h => exact .inl (.inl ⟨_, hlibrary, hkind, .inr ⟨_, hkey, h⟩⟩)
    | attempt h => exact .inl (.inr h)
    | added hbundle hf hempty h => exact .inr ⟨_, hbundle, .inl ⟨_, hf, hempty, h⟩⟩
    | data hbundle hstyle hscript h => exact .inr ⟨_, hbundle, .inr ⟨_, _, hstyle, hscript, h⟩⟩
  · rintro ((⟨library, hlibrary, hkind, h | ⟨key, hkey, h⟩⟩ | h) | ⟨bundle, hbundle, hfinish⟩)
    · exact .location hlibrary hkind h
    · exact .cached hlibrary hkind hkey h
    · exact .attempt h
    · rcases hfinish with ⟨f, hf, hempty, h⟩ | ⟨style, script, hstyle, hscript, h⟩
      · exact .added hbundle hf hempty h
      · exact .data hbundle hstyle hscript h

theorem broken_compose :
    Broken (c.compose r world).1 ↔ Broken (c.draft world.workspace r) ∨
      ∃ d, c.draft world.workspace r = .ok d ∧ PageBreaks c r world d := by
  simp only [pageBreaks_iff]
  unfold compose bundleOf
  cases hdraft : c.draft world.workspace r with
  | error stop => simp [Broken, hdraft]
  | ok d =>
    have hfinish (bundle : Bundle) :
        Broken ((c.finish world.workspace r d bundle).mapError .breakdown) ↔ _ := broken_mapError
    simp only [hdraft, Except.ok.injEq, exists_eq_left']
    cases Bundle.resolve world.workspace c.settings (some d.base) r.minify
      d.supplies.libraries world.fetch with
    | mk resolved fetch =>
      cases resolved with
      | error e => simp [Broken, Fails]
      | ok bundle =>
        have hsound : ¬Broken (.ok d : Except Stop Draft) := not_broken_pure d
        simp only [hfinish, hsound, false_or]
        simp [Fails]

/-- A compile ends without a result where its page breaks down, or saving the page does. -/
theorem compile_eq_error :
    Fails (c.compile r world).1 ↔ Broken (c.compose r world).1 ∨
      ∃ page e, (c.compose r world).1 = .ok page ∧
        (c.save r world.workspace page).refusal = some e ∧ e.isSystem = false := by
  unfold compile
  cases c.compose r world with
  | mk composed fetch =>
    cases composed with
    | error stop => cases stop <;> simp [Fails, Broken]
    | ok page =>
      simp only
      cases hrefusal : (c.save r world.workspace page).refusal with
      | none => simp [Fails, Broken, hrefusal]
      | some e => cases h : e.isSystem <;> simp [Fails, Broken, hrefusal, h]

theorem fails_compile : Fails (c.compile r world).1 ↔ Breaks c r world := by
  rw [compile_eq_error, broken_compose, broken_draft]
  constructor
  · rintro (((h | ⟨tale, htale, h | ⟨outfit, houtfit, h⟩⟩) | ⟨d, hdraft, h⟩) |
      ⟨page, e, hpage, hrefusal, h⟩)
    · exact .story h
    · exact .player htale h
    · exact .supplies htale houtfit h
    · exact .page hdraft h
    · exact .saved hpage hrefusal h
  · intro h
    cases h with
    | story h => exact .inl (.inl (.inl h))
    | player htale h => exact .inl (.inl (.inr ⟨_, htale, .inl h⟩))
    | supplies htale houtfit h => exact .inl (.inl (.inr ⟨_, htale, .inr ⟨_, houtfit, h⟩⟩))
    | page hdraft h => exact .inl (.inr ⟨_, hdraft, h⟩)
    | saved hpage hrefusal h => exact .inr ⟨_, _, hpage, hrefusal, h⟩

end Compiler

/-! ### Complaints -/

theorem FileError.message_ne (e : FileError) : e.message ≠ "" := by
  obtain ⟨fault, path, target⟩ := e
  cases fault <;> simp [message, FileFault.message]

theorem TextFileError.message_ne (e : TextFileError) : e.message ≠ "" := by
  cases e with
  | file e => exact e.message_ne
  | utf8 e =>
    simp only [message, Text.Utf8Error.message]
    split <;> simp

/-- A failure that is told is told in words. -/
theorem Failure.message_ne (f : Failure) : f.message ≠ "" := by
  have hbegins {s : String} (h : s ≠ "") (t : String) : s ++ t ≠ "" := by simp [h]
  cases f with
  | noScript input => exact hbegins (by decide) input
  | unreadable input e => exact hbegins (hbegins (hbegins (by decide) input) ": ") e.message
  | badYaml r => exact hbegins (by decide) r.message
  | noMapping => exact (by decide : "Script must be a mapping at the top level" ≠ "")
  | noScenes =>
    exact (by decide : "Script must define 'scenes' as a mapping of scene name to instructions" ≠ "")
  | noSection name => exact hbegins (hbegins (by decide) name) "' must be a mapping"
  | badScenes e => exact hbegins (by decide) e.message
  | noTemplate e =>
    cases e with
    | missing path e => exact hbegins (hbegins (hbegins (by decide) path) ": ") e.message
    | escaped e => exact e.message_ne
  | notSaved output e => exact hbegins (hbegins (hbegins (by decide) output) ": ") e.message

namespace Compiler

/-- What a result tells: the counts of a page that was saved, or in words the failure for which there is
no page. -/
inductive Tells (c : Compiler) (r : Request) (world : World) : Except Failure Stats → Prop
  | page {page : Finished} (hpage : (c.compose r world).1 = .ok page)
      (hsaved : (c.save r world.workspace page).refusal = none) : Tells c r world (.ok page.stats)
  | failure {f : Failure} (h : (c.compose r world).1 = .error (.failure f))
      (hmessage : f.message ≠ "") : Tells c r world (.error f)
  | unsaved {page : Finished} {e : FileError} (hpage : (c.compose r world).1 = .ok page)
      (h : (c.save r world.workspace page).refusal = some e)
      (hmessage : (Failure.notSaved r.output e).message ≠ "") :
      Tells c r world (.error (.notSaved r.output e))

variable {c : Compiler} {r : Request} {world : World}

theorem tells_of_compile {result : Result} (h : (c.compile r world).1 = .ok result) :
    Tells c r world result.outcome := by
  unfold compile at h
  cases hcompose : c.compose r world with
  | mk composed fetch =>
    have hfirst : (c.compose r world).1 = composed := by rw [hcompose]
    rw [hcompose] at h
    cases composed with
    | error stop =>
      cases stop with
      | failure f =>
        cases h
        exact .failure hfirst f.message_ne
      | breakdown b => cases h
    | ok page =>
      simp only at h
      cases hrefusal : (c.save r world.workspace page).refusal with
      | none =>
        rw [hrefusal] at h
        cases h
        exact .page hfirst hrefusal
      | some e =>
        rw [hrefusal] at h
        simp only at h
        split at h
        · cases h
          exact .unsaved hfirst hrefusal (Failure.message_ne _)
        · cases h

/-- The room with a template that starts with a byte no text starts with. -/
def garbledRoom : World :=
  let entries := [(["player"], .directory), (["player", "assets"], .directory),
    (["player", "assets", "template.html"], .file [255])]
  { room with workspace := { room.workspace with volume := ⟨entries⟩ } }

theorem isOk_room : ((booth Output.noRefusals).compile order room).1.isOk = true := by
  decide +kernel

theorem isOk_garbledRoom : ((booth Output.noRefusals).compile order garbledRoom).1.isOk = false := by
  decide +kernel

end Compiler
end Storybind
