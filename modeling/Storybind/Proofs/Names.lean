import Mathlib.Tactic
import Storybind.Proofs.Project.Scaffold
import Storybind.Proofs.Script.SceneNames
import Storybind.Proofs.Service.Containment

/-!
The names of projects, games and scenes. Each kind has its own characters, and each is read only up to
the end of its line: a name is taken exactly if it has these characters and no others, apart from one
line break behind them.
-/

namespace Storybind

/-! ### Projects -/

namespace Project

variable {w : Workspace} {now : String} {p : Plan}

theorem check_badName_iff : check w p = .error .badName ↔
    (Starter.named? p.starter).isSome = true ∧ ¬naming.FitsLine p.name := by
  rw [← isName_iff, check]
  cases Starter.named? p.starter with
  | none => simp
  | some starter =>
    cases hname : isName p.name with
    | false => simp
    | true =>
      refine iff_of_false ?_ (by simp)
      dsimp only [Bool.not_true, Bool.false_eq_true, if_false]
      cases isFree w ((Path.ofString p.directory).child p.name) with
      | error e => simp
      | ok free => cases free <;> simp

/-- Only the check looks at the name of a project. -/
theorem create_badName_iff : (create w now p).1 = .error .badName ↔ check w p = .error .badName := by
  rw [create]
  split
  · next e hcheck => rw [hcheck, Except.error.injEq, Except.error.injEq]
  · next starter root hcheck =>
    refine iff_of_false (fun h => ?_) (by simp [hcheck])
    split at h
    · cases h
    · dsimp only at h
      split at h
      · cases h
      · cases h

/-- What is made was checked. -/
theorem check_isOk_of_create {made : Made} (h : (create w now p).1 = .ok made) :
    ∃ starter root, check w p = .ok (starter, root) := by
  cases hcheck : check w p with
  | error e =>
    rw [create, hcheck] at h
    cases h
  | ok found => exact ⟨found.1, found.2, rfl⟩

end Project

/-! ### Games -/

namespace Service

variable {w : Workspace} {settings : Settings} {name : String}

/-- The reply to a name that no game may have. -/
def gameRefusal (name : String) : Reply :=
  ⟨400, .data (.record [("detail", .text ("Invalid game name: " ++ name))])⟩

theorem message_eq_of_refusal {r r' : Refusal} (h : Reply.refusal r = .refusal r') :
    r.message = r'.message := by
  obtain ⟨-, hbody⟩ := Reply.mk.inj h
  simpa using hbody

/-- The reply to a place outside is another one, though its status is the same. -/
theorem refusal_outside_ne (value : String) :
    Reply.refusal (.outside "game" value) ≠ gameRefusal name := by
  intro h
  have hmessage : "game must stay inside the server workdir: " ++ value =
      "Invalid game name: " ++ name :=
    message_eq_of_refusal (show _ = Reply.refusal (.badGameName name) from h)
  have hstart := congrArg (fun s => s.toList.head?) hmessage
  rw [String.toList_append, String.toList_append] at hstart
  cases hstart

theorem inside_eq_error {root : Path} {label value : String} {halt : Halt}
    (h : inside w root label value = .error halt) :
    halt = .refused (.outside label value) ∨ ∃ e, halt = .unresolved e := by
  unfold inside at h
  split at h
  · next e _ =>
    cases h
    exact .inr ⟨e, rfl⟩
  · split at h
    · cases h
    · cases h
      exact .inl rfl

/-- A name that a game may have is not refused for itself, whatever else is wrong. -/
theorem gameReply_ne_gameRefusal (h : isGameName name = true) :
    gameReply w settings name ≠ .ok (gameRefusal name) := by
  simp only [gameReply, gamePath, h, Bool.not_true, Bool.false_eq_true, if_false, if_true]
  intro hreply
  split at hreply
  · cases hreply
  · split at hreply
    · next halt hhalt =>
      rcases inside_eq_error hhalt with rfl | ⟨e, rfl⟩
      · exact refusal_outside_ne (gameFile name) (Except.ok.inj hreply)
      · cases hreply
    · split at hreply
      · cases hreply
      · have hstatus : 404 = 400 := congrArg Reply.status (Except.ok.inj hreply)
        exact absurd hstatus (by decide)
      · obtain ⟨s, -, hs⟩ := Except.map_eq_ok.mp hreply
        have hstatus : 200 = 400 := congrArg Reply.status hs
        exact absurd hstatus (by decide)

theorem gameReply_eq_gameRefusal_iff :
    gameReply w settings name = .ok (gameRefusal name) ↔ ¬gameNaming.FitsLine name := by
  rw [← isGameName_iff]
  cases h : isGameName name with
  | true => exact iff_of_false (gameReply_ne_gameRefusal h) (by simp)
  | false =>
    refine iff_of_true ?_ (by simp)
    rw [gameReply, h]
    rfl

/-- A call for the page of a game. The name in its path is neither empty nor in parts. -/
structure AsksFor (call : Call) (name : String) : Prop where
  method : Text.upper call.method = "GET"
  path : call.path = .ok (Route.gamesDirectory ++ name)
  nonempty : name ≠ ""
  single : '/' ∉ name.toList

theorem ofPath?_game (hne : name ≠ "") (hslash : '/' ∉ name.toList) :
    Route.ofPath? (Route.gamesDirectory ++ name) = some (.game name) := by
  have hfixed : Route.fixed.find? (fun r => Route.gamesDirectory ++ name = r.1 ||
      Route.gamesDirectory ++ name = r.1 ++ "\n") = none := by
    -- no other path begins like the path of a game
    have hother : ∀ r ∈ Route.fixed, ¬Route.gamesDirectory.toList <+: r.1.toList ∧
        ¬Route.gamesDirectory.toList <+: (r.1 ++ "\n").toList := by decide
    have hstart : Route.gamesDirectory.toList <+: (Route.gamesDirectory ++ name).toList :=
      ⟨_, String.toList_append.symm⟩
    rw [List.find?_eq_none]
    intro r hr
    obtain ⟨hplain, hbreak⟩ := hother r hr
    rw [Bool.or_eq_true, decide_eq_true_eq, decide_eq_true_eq, not_or]
    exact ⟨fun h => hplain (h ▸ hstart), fun h => hbreak (h ▸ hstart)⟩
  have hstarts : Text.startsWith (Route.gamesDirectory ++ name) Route.gamesDirectory = true := by
    rw [Text.startsWith, String.toList_append]
    exact Option.isSome_iff_exists.mpr ⟨_, Text.after?_eq_some.mpr rfl⟩
  have hdrop : Text.drop Route.gamesDirectory.length (Route.gamesDirectory ++ name) = name := by
    rw [Text.drop, String.toList_append, ← String.length_toList, List.drop_left,
      String.ofList_toList]
  have hempty : name.isEmpty = false := by simpa using hne
  have hcontains : name.toList.contains '/' = false := by simpa using hslash
  rw [Route.ofPath?, hfixed]
  simp only [hstarts, hdrop, hempty, hcontains, if_true, Bool.or_false, Bool.false_eq_true, if_false]

theorem answer_game (c : Compiler) {call : Call} (world : World) (h : AsksFor call name) :
    answer c call world = (gameReply world.workspace c.settings name, world) := by
  have hway : Route.wayOf (Route.gamesDirectory ++ name) = .here (.game name) := by
    rw [Route.wayOf, ofPath?_game h.nonempty h.single]
  have hreply : replyTo c call world = (gameReply world.workspace c.settings name, world) := by
    unfold replyTo
    rw [h.path]
    simp only [hway, h.method]
    rfl
  have hsent (r : Reply) : r.sent call.method = r := by
    rw [Reply.sent, h.method]
    rfl
  rw [answer, hreply]
  simp only [funext hsent]
  cases gameReply world.workspace c.settings name <;> rfl

end Service

/-! ### All names -/

open Service (AsksFor answer gameNaming gameRefusal gameReply)
open Check (nameWarning sceneNaming scenesIn?)

/-- For every name: a project is refused for it, a call for a game gets the reply that it is none, and
a report warns about it where a scene has it, exactly if it has other characters than it should, apart
from one line break at its end. -/
theorem refused_iff_not_fitsLine (w : Workspace) (name : String) :
    (∀ (now : String) (p : Project.Plan), p.name = name →
      ((Project.create w now p).1 = .error .badName ↔
        (Starter.named? p.starter).isSome = true ∧ ¬Project.naming.FitsLine name) ∧
      ∀ made, (Project.create w now p).1 = .ok made → Project.naming.FitsLine name) ∧
    (∀ settings : Settings,
      gameReply w settings name = .ok (gameRefusal name) ↔ ¬gameNaming.FitsLine name) ∧
    (∀ (c : Compiler) (call : Service.Call) (fetch : Fetch.State), AsksFor call name →
      (answer c call ⟨w, fetch⟩ = (.ok (gameRefusal name), ⟨w, fetch⟩) ↔
        ¬gameNaming.FitsLine name)) ∧
    ∀ (script : Option Path) (content : String) (scenes : Entries) (r : Report),
      scenesIn? content = some scenes → Check.text w script content = .ok r →
        (nameWarning name ∈ r.warnings ↔
          (∃ e ∈ scenes, e.1.display = name) ∧ ¬sceneNaming.FitsLine name) := by
  refine ⟨?_, fun settings => ?_, fun c call fetch hasks => ?_,
    fun script content scenes r hscenes h => ?_⟩
  · rintro now p rfl
    refine ⟨Project.create_badName_iff.trans Project.check_badName_iff, fun made h => ?_⟩
    obtain ⟨starter, root, hcheck⟩ := Project.check_isOk_of_create h
    exact Project.isName_iff.mp (Project.check_ok hcheck).2.2.1
  · exact Service.gameReply_eq_gameRefusal_iff
  · rw [Service.answer_game c _ hasks, Prod.mk.injEq, and_iff_left rfl]
    exact Service.gameReply_eq_gameRefusal_iff
  · exact Check.nameWarning_mem_text hscenes h

/-- A call for a game. -/
def callFor (segment : String) : Service.Call := ⟨"GET", "/api/games/" ++ segment, none⟩

theorem asksFor_of_path {segment name : String} (hpath : (callFor segment).path.toOption =
    some (Service.Route.gamesDirectory ++ name)) (hne : name ≠ "") (hslash : '/' ∉ name.toList) :
    AsksFor (callFor segment) name where
  method := show Text.upper "GET" = "GET" by decide +kernel
  path := by
    generalize (callFor segment).path = path at hpath
    cases path with
    | error e => cases hpath
    | ok s => exact congrArg Except.ok (Option.some.inj hpath)
  nonempty := hne
  single := hslash

/-- The scenes of a text and the report on it, where there is one. -/
theorem reported_of_isOk {content : String} {names : List String}
    (hnames : (scenesIn? content).map (fun es => es.map (·.1.display)) = some names)
    (h : (Check.text Check.bare none content).isOk = true) :
    ∃ scenes r, scenesIn? content = some scenes ∧ Check.text Check.bare none content = .ok r ∧
      ∀ name, (∃ e ∈ scenes, e.1.display = name) ↔ name ∈ names := by
  obtain ⟨scenes, hscenes, rfl⟩ := Option.map_eq_some_iff.mp hnames
  obtain ⟨r, hr⟩ := Except.not_fails.mp (Except.not_fails_of_isOk h)
  exact ⟨scenes, r, hscenes, hr, fun name => List.mem_map.symm⟩

/-- A story with a scene whose name has a blank, and one with a name that a scene should have. -/
def twoScenes : String := "scenes:\n  a b: []\n  c: []\n"

/-- Names with a blank are refused, and those without are not. -/
theorem refused_iff_not_fitsLine_blank :
    (Project.create Project.drawer "now" (Project.planAt "." "my game")).1 = .error .badName ∧
    (Project.create Project.drawer "now" (Project.planAt "." "new")).1 ≠ .error .badName ∧
    AsksFor (callFor "a%20b") "a b" ∧
    answer Service.shop (callFor "a%20b") ⟨Service.house, Service.cold⟩ =
      (.ok (gameRefusal "a b"), ⟨Service.house, Service.cold⟩) ∧
    ∃ scenes r, scenesIn? twoScenes = some scenes ∧ Check.text Check.bare none twoScenes = .ok r ∧
      nameWarning "a b" ∈ r.warnings ∧ nameWarning "c" ∉ r.warnings := by
  have hbad : ¬Project.naming.FitsLine "my game" := mt Project.isName_iff.mpr (by decide)
  have hgood : Project.naming.FitsLine "new" := Project.isName_iff.mp (by decide)
  have hgame : ¬gameNaming.FitsLine "a b" := mt Service.isGameName_iff.mpr (by decide)
  have hblank : ¬sceneNaming.FitsLine "a b" := mt Check.isPlainName_iff.mpr (by decide)
  have hplain : sceneNaming.FitsLine "c" := Check.isPlainName_iff.mp (by decide)
  have hasks : AsksFor (callFor "a%20b") "a b" :=
    asksFor_of_path (by decide +kernel) (by decide) (by decide)
  have hnames : (scenesIn? twoScenes).map (fun es => es.map (·.1.display)) = some ["a b", "c"] := by
    decide +kernel
  obtain ⟨scenes, r, hscenes, hr, hmem⟩ := reported_of_isOk hnames (by decide +kernel)
  have hrefused := (refused_iff_not_fitsLine Project.drawer "my game").1 "now" (Project.planAt "." _) rfl
  have htaken := (refused_iff_not_fitsLine Project.drawer "new").1 "now" (Project.planAt "." _) rfl
  have hcall := (refused_iff_not_fitsLine Service.house "a b").2.2.1 Service.shop _ Service.cold hasks
  have hwarned := (refused_iff_not_fitsLine Check.bare "a b").2.2.2 none twoScenes _ r hscenes hr
  have hsilent := (refused_iff_not_fitsLine Check.bare "c").2.2.2 none twoScenes _ r hscenes hr
  exact ⟨hrefused.1.mpr ⟨by decide, hbad⟩, fun h => (htaken.1.mp h).2 hgood, hasks, hcall.mpr hgame,
    scenes, r, hscenes, hr, hwarned.mpr ⟨(hmem "a b").mpr (by decide), hblank⟩,
    fun h => (hsilent.mp h).2 hplain⟩

/-- A story with a scene whose name ends with a line break. -/
def brokenScene : String := "scenes:\n  \"a\\n\": []\n"

/-- A line break at the end of a name is taken with it, by each of the three. -/
theorem not_fits_line_break :
    (¬∀ (w : Workspace) (now : String) (p : Project.Plan) (made : Project.Made),
      (Project.create w now p).1 = .ok made → Project.naming.Fits p.name) ∧
    (¬∀ (c : Compiler) (call : Service.Call) (world : World) (name : String), AsksFor call name →
      ¬gameNaming.Fits name → (answer c call world).1 = .ok (gameRefusal name)) ∧
    ¬∀ (w : Workspace) (script : Option Path) (content : String) (scenes : Entries) (r : Report),
      scenesIn? content = some scenes → Check.text w script content = .ok r →
        ∀ e ∈ scenes, nameWarning e.1.display ∉ r.warnings → sceneNaming.Fits e.1.display := by
  refine ⟨fun h => ?_, fun h => ?_, fun h => ?_⟩
  · have hmade : (Project.create Project.drawer "now" (Project.planAt "." "game\n")).1.isOk = true := by
      decide +kernel
    obtain ⟨made, hmade⟩ := Except.not_fails.mp (Except.not_fails_of_isOk hmade)
    exact (h _ _ _ made hmade).break_not_mem (by decide)
  · have hasks : AsksFor (callFor "out%0A") "out\n" :=
      asksFor_of_path (by decide +kernel) (by decide) (by decide)
    have hbroken : ¬gameNaming.Fits "out\n" := fun hfits =>
      hfits.break_not_mem (by decide)
    have hrefused := h Service.shop _ ⟨Service.house, Service.cold⟩ _ hasks hbroken
    have hline : gameNaming.FitsLine "out\n" := Service.isGameName_iff.mp (by decide)
    rw [Service.answer_game _ _ hasks] at hrefused
    dsimp only at hrefused
    exact Service.gameReply_eq_gameRefusal_iff.mp hrefused hline
  · have hnames : (scenesIn? brokenScene).map (fun es => es.map (·.1.display)) = some ["a\n"] := by
      decide +kernel
    obtain ⟨scenes, r, hscenes, hr, hmem⟩ := reported_of_isOk hnames (by decide +kernel)
    obtain ⟨e, he, hname⟩ := (hmem "a\n").mpr (by decide)
    have hplain : sceneNaming.FitsLine "a\n" := Check.isPlainName_iff.mp (by decide)
    have hsilent : nameWarning e.1.display ∉ r.warnings := by
      rw [hname]
      exact fun hwarned => ((Check.nameWarning_mem_text hscenes hr).mp hwarned).2 hplain
    have hfits := h _ _ _ _ r hscenes hr e he hsilent
    rw [hname] at hfits
    exact hfits.break_not_mem (by decide)

end Storybind
