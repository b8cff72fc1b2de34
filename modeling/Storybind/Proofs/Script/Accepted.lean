import Mathlib.Tactic
import Storybind.Proofs.Compile.Breakdown
import Storybind.Proofs.Script.Obstacles

/-!
What the check accepts, a compile accepts as a script: the sections that the check wants are those
that a story must have. What a compile refuses as a script has an issue, or else gets no report.
-/

namespace Storybind

open Storybind.Except (Fails not_fails bind_eq_error mapError_eq_error mapError_eq_ok)

/-! ### Values alike -/

/-- A scalar without the label of the node it was read from. -/
def Scalar.unlabelled : Scalar → Scalar
  | .day _ d => .day 0 d
  | .moment _ m => .moment 0 m
  | s => s

/-- Values that are the same but for the nodes they were read from. -/
inductive Value.Alike : Value → Value → Prop
  | scalar {s t : Scalar} (h : s.unlabelled = t.unlabelled) : Alike (.scalar s) (.scalar t)
  | list {l m : Nat} {xs ys : List Value} (h : List.Forall₂ Alike xs ys) :
      Alike (.list l xs) (.list m ys)
  | mapping {l m : Nat} {es fs : Entries}
      (hkeys : es.map (fun e => e.1.unlabelled) = fs.map fun f => f.1.unlabelled)
      (h : List.Forall₂ Alike (es.map Prod.snd) (fs.map Prod.snd)) : Alike (.mapping l es) (.mapping m fs)
  | set {l m : Nat} {ss ts : List Scalar} (h : ss.map Scalar.unlabelled = ts.map Scalar.unlabelled) :
      Alike (.set l ss) (.set m ts)
  | pair {a b a' b' : Value} (hfirst : Alike a a') (hsecond : Alike b b') :
      Alike (.pair a b) (.pair a' b')
  | back (l m : Nat) : Alike (.back l) (.back m)

/-! ### Stories -/

namespace Story

variable {w : Workspace} {input content : String} {v : Value}

/-- Whether an input stands for a text: it is the text itself, which then has a line break, or else
the path of a file with that text. -/
inductive Gives (w : Workspace) (input content : String) : Prop where
  | literal (hbreak : '\n' ∈ input.toList) (h : input = content)
  | file (hpath : '\n' ∉ input.toList) (h : w.readText (Path.ofString input) = .ok content)

theorem isFile_of_readText {p : Path} {s : String} (h : w.readText p = .ok s) : w.isFile p = .ok true := by
  unfold Workspace.readText Workspace.read Volume.read at h
  unfold Workspace.isFile Volume.isFile Volume.leadsTo
  cases hentry : w.volume.entry w.cwd p with
  | error f =>
    rw [hentry] at h
    cases h
  | ok found =>
    obtain ⟨names, e⟩ := found
    rw [hentry] at h
    cases e with
    | directory => cases h
    | file b => rfl

theorem read_of_gives (h : Gives w input content) : ∃ script, read w input = .ok (content, script) := by
  unfold read
  cases h with
  | literal hbreak h =>
    subst h
    exact ⟨none, if_pos (by simpa using hbreak)⟩
  | file hpath h =>
    refine ⟨some (w.resolve (Path.ofString input)), ?_⟩
    rw [if_neg (by simpa using hpath)]
    simp only [isFile_of_readText h, h]

/-- Whether the scenes come back from the text that is written for them. -/
def ReadsBack (s : Story) : Prop :=
  ∀ text, s.scenesText = .ok text →
    ∃ v, Yaml.load text = .ok v ∧ Value.Alike (.mapping s.scenesLabel s.scenes) v

theorem isUnwritable_unlabelled (k : Scalar) : Yaml.isUnwritable k.unlabelled = Yaml.isUnwritable k := by
  cases k <;> rfl

theorem holdUnwritable_of_key {es : Entries} (h : es.any (fun e => Yaml.isUnwritable e.1) = true) :
    Yaml.entriesHoldUnwritable es = true := by
  induction es with
  | nil => cases h
  | cons e rest ih =>
    rw [List.any_cons, Bool.or_eq_true] at h
    rw [Yaml.entriesHoldUnwritable, Bool.or_eq_true, Bool.or_eq_true]
    exact h.imp .inl ih

/-- The scenes of a story that reads back are no failure. -/
theorem ReadsBack.run {s : Story} {text : String} (h : s.ReadsBack) (htext : s.scenesText = .ok text) :
    ∃ scenes, Engine.usual.run text = .ok scenes := by
  obtain ⟨v, hload, halike⟩ := h text htext
  cases halike with
  | @mapping _ m _ fs hkeys =>
    -- scenes that have a text have names that can be written, so those that come back have too
    have hwritable : s.scenes.any (fun e => Yaml.isUnwritable e.1) = false := by
      unfold scenesText at htext
      split at htext
      · cases htext
      · next hhold => exact Bool.eq_false_iff.mpr (mt holdUnwritable_of_key hhold)
    have hnames : fs.any (fun f => Yaml.isUnwritable f.1) = false := by
      have hany := congrArg (List.any · Yaml.isUnwritable) hkeys
      simp only [List.any_map, Function.comp_def, isUnwritable_unlabelled] at hany
      rw [← hany, hwritable]
    unfold Engine.run Engine.usual Scene.load
    by_cases hblank : Text.isBlankText text = true
    · exact ⟨[], by simp [hblank, Except.map, Except.mapError]⟩
    · refine ⟨(Scene.ofEntries fs).map Scene.toRecord, ?_⟩
      simp [hblank, hload, Scene.ofValue, hnames, Except.map, Except.mapError]

end Story

/-! ### The sections of a script -/

namespace Check

variable {w : Workspace} {script : Option Path} {v : Value} {es : Entries} {r : Report}

theorem isMisshapen_eq (name : String) :
    isMisshapen name es = !Story.isMappingOrNull (Entries.get? name es) := by
  unfold isMisshapen Story.isMappingOrNull
  cases Entries.get? name es with
  | none => rfl
  | some v =>
    cases v with
    | scalar s => cases s <;> rfl
    | _ => rfl

theorem exists_mapping_of_scenesSection (h : (scenesSection es).isValid = true) :
    ∃ place scenes, Entries.get? "scenes" es = some (.mapping place scenes) := by
  unfold scenesSection at h
  split at h
  · cases h
  · cases h
  · next place scenes hscenes => exact ⟨place, scenes, hscenes⟩
  · cases h

theorem shaped_of_sections (h : (sections es).isValid = true) :
    isMisshapen "variables" es = false ∧ isMisshapen "styles" es = false := by
  unfold sections at h
  simp only [Report.isValid_append] at h
  obtain ⟨⟨hvariables, hstyles⟩, -⟩ := h
  constructor
  · by_contra hbad
    rw [if_pos (by simpa using hbad)] at hvariables
    cases hvariables
  · by_contra hbad
    rw [if_pos (by simpa using hbad)] at hstyles
    cases hstyles

/-- A value whose sections have no issue is a story. -/
theorem exists_story_of_structure (h : (structure_ v).isValid = true) :
    ∃ story, Story.ofValue v = .ok story := by
  cases v with
  | mapping label es =>
    rw [structure_, Report.isValid_append, Report.isValid_append] at h
    obtain ⟨⟨hsection, -⟩, hsections⟩ := h
    obtain ⟨place, scenes, hscenes⟩ := exists_mapping_of_scenesSection hsection
    obtain ⟨hvariables, hstyles⟩ := shaped_of_sections hsections
    rw [isMisshapen_eq, Bool.not_eq_false'] at hvariables hstyles
    refine ⟨⟨es, place, scenes⟩, ?_⟩
    simp [Story.ofValue, hscenes, hvariables, hstyles]
  | _ => cases h

theorem isValid_structure (h : value w script v = .ok r) (hvalid : r.isValid = true) :
    (structure_ v).isValid = true := by
  unfold value at h
  split at h
  · split at h
    · obtain ⟨places, -, h⟩ := Except.bind_eq_ok.mp h
      obtain ⟨mounted, -, h⟩ := Except.bind_eq_ok.mp h
      cases h
      simp only [Report.isValid_append] at hvalid
      exact hvalid.1.1.1.1.1
    · cases h
      exact hvalid
  · cases h
    exact hvalid

/-- A valid script holds a story. -/
theorem exists_story_of_isValid {content : String} (h : text w script content = .ok r)
    (hvalid : r.isValid = true) : ∃ story, Story.ofText content = .ok story := by
  unfold text at h
  split at h
  · -- a text that is not YAML has an issue
    cases h
    cases hvalid
  · cases h
  · next v hload =>
    obtain ⟨story, hstory⟩ := exists_story_of_structure (isValid_structure (loaded_eq_ok h) hvalid)
    refine ⟨story, ?_⟩
    rw [Story.ofText, hload]
    exact mapError_eq_ok.mpr hstory

end Check

/-! ### Compiles -/

/-- Whether a failure is one of the script: there is none, it cannot be read, or it is malformed. -/
def Failure.isOfScript : Failure → Bool
  | .noTemplate _ | .notSaved _ _ => false
  | _ => true

namespace Compiler

variable {c : Compiler} {w : Workspace} {r : Request} {world : World} {content : String} {f : Failure}

theorem eq_noTemplate_of_outfit (h : c.outfit w = .error (.failure f)) : ∃ e, f = .noTemplate e := by
  unfold outfit at h
  rcases bind_eq_error.mp h with h | ⟨template, -, h⟩
  · obtain ⟨e, -, he⟩ := mapError_eq_error.mp h
    cases e with
    | missing path e =>
      cases he
      exact ⟨_, rfl⟩
    | escaped e => cases he
  · rcases bind_eq_error.mp h with h | ⟨scripts, -, h⟩
    · obtain ⟨e, -, he⟩ := mapError_eq_error.mp h
      cases he
    · rcases bind_eq_error.mp h with h | ⟨look, -, h⟩
      · obtain ⟨e, -, he⟩ := mapError_eq_error.mp h
        cases he
      · cases h

theorem failure_of_draft (h : c.draft w r = .error (.failure f)) :
    c.tell w r = .error (.failure f) ∨ ∃ e, f = .noTemplate e := by
  unfold draft at h
  rcases bind_eq_error.mp h with h | ⟨tale, -, h⟩
  · exact .inl h
  · rcases bind_eq_error.mp h with h | ⟨outfit, -, h⟩
    · exact .inr (eq_noTemplate_of_outfit h)
    · rcases bind_eq_error.mp h with h | ⟨supplies, -, h⟩
      · obtain ⟨e, -, he⟩ := mapError_eq_error.mp h
        cases he
      · cases h

theorem failure_of_compose (h : (c.compose r world).1 = .error (.failure f)) :
    c.tell world.workspace r = .error (.failure f) ∨ ∃ e, f = .noTemplate e := by
  unfold compose at h
  dsimp only at h
  split at h
  · next stop hdraft =>
    cases h
    exact failure_of_draft hdraft
  · split at h
    · cases h
    · obtain ⟨e, -, he⟩ := mapError_eq_error.mp h
      cases he

/-- A failure of the script comes before everything else. -/
theorem tell_of_isOfScript {result : Result} (h : (c.compile r world).1 = .ok result)
    (houtcome : result.outcome = .error f) (hscript : f.isOfScript = true) :
    c.tell world.workspace r = .error (.failure f) := by
  have htells := tells_of_compile h
  rw [houtcome] at htells
  cases htells with
  | failure hcompose =>
    rcases failure_of_compose hcompose with htell | ⟨e, rfl⟩
    · exact htell
    · cases hscript
  | unsaved => cases hscript

theorem tell_ne_failure (hengine : c.engine = .usual) (hgives : Story.Gives w r.input content)
    {story : Story} (hstory : Story.ofText content = .ok story) (hback : story.ReadsBack) :
    c.tell w r ≠ .error (.failure f) := by
  intro h
  obtain ⟨script, hread⟩ := Story.read_of_gives hgives
  unfold tell at h
  rw [hread, hengine] at h
  simp only [bind, Except.bind, hstory] at h
  cases htext : story.scenesText with
  | error stop =>
    -- scenes with a number that has too many digits end the compile without a result
    rw [htext] at h
    unfold Story.scenesText at htext
    split at htext
    · cases htext
      cases h
    · cases htext
  | ok text =>
    obtain ⟨scenes, hscenes⟩ := hback.run htext
    rw [htext] at h
    simp only [hscenes] at h
    cases h

theorem isOfScript_eq_false (hengine : c.engine = .usual)
    (hgives : Story.Gives world.workspace r.input content)
    (hback : ∀ story, Story.ofText content = .ok story → story.ReadsBack) {w : Workspace}
    {script : Option Path} {report : Report} (hcheck : Check.text w script content = .ok report)
    (hvalid : report.isValid = true) {result : Result} (h : (c.compile r world).1 = .ok result)
    (houtcome : result.outcome = .error f) : f.isOfScript = false := by
  obtain ⟨story, hstory⟩ := Check.exists_story_of_isValid hcheck hvalid
  by_contra hscript
  have htell := tell_of_isOfScript h houtcome (by simpa using hscript)
  exact tell_ne_failure hengine hgives hstory (hback story hstory) htell

/-- A compile of a valid script does not fail for the script, wherever the check was made. A script
for which a compile fails has an issue, unless its check gives no report. -/
theorem script_accepted (c : Compiler) (r : Request) (world : World) (content : String)
    (hengine : c.engine = .usual) (hgives : Story.Gives world.workspace r.input content)
    (hback : ∀ story, Story.ofText content = .ok story → story.ReadsBack) :
    (∀ w script report, Check.text w script content = .ok report → report.isValid = true →
      ∀ result f, (c.compile r world).1 = .ok result → result.outcome = .error f →
        f.isOfScript = false) ∧
    ∀ result f, (c.compile r world).1 = .ok result → result.outcome = .error f →
      f.isOfScript = true → ∀ w script,
        (∃ report, Check.text w script content = .ok report ∧ report.issues ≠ []) ∨
          Check.Unreported w script content := by
  refine ⟨?_, ?_⟩
  · intro w script report hcheck hvalid result f h houtcome
    exact isOfScript_eq_false hengine hgives hback hcheck hvalid h houtcome
  · intro result f h houtcome hscript w script
    by_cases hfails : Fails (Check.text w script content)
    · exact .inr (Check.fails_text.mp hfails)
    · obtain ⟨report, hcheck⟩ := not_fails.mp hfails
      refine .inl ⟨report, hcheck, fun hnone => ?_⟩
      have hvalid : report.isValid = true := Report.isValid_iff.mpr hnone
      have hother := isOfScript_eq_false hengine hgives hback hcheck hvalid h houtcome
      rw [hscript] at hother
      cases hother

/-! ### Two scripts -/

/-- A script of one scene with one line. -/
def greeting : String := "title: T\ndescription: D\nscenes:\n  a:\n  - hi\n"

/-- A script whose variables are no mapping and that has a component in the home of somebody else. -/
def crossed : String :=
  "variables: 1\nscenes:\n  a:\n  - '\x7b\x7bcomponent \"create\" \"A\" \"~x/a.js\" \"\" \"i\" \"\"\x7d\x7d'\n"

/-- The request for the page of a script. -/
def orderFor (content : String) : Request := { order with input := content }

/-- Whether a value is one scene of one line, by their texts. -/
def isGreeting (label : String) (line : String) : Value → Bool
  | .mapping _ [(.text a, .list _ [.text b])] => a == label && b == line
  | _ => false

theorem alike_of_isGreeting {u v : Value} {label line : String} (hu : isGreeting label line u = true)
    (hv : isGreeting label line v = true) : Value.Alike u v := by
  unfold isGreeting at hu hv
  split at hu
  · split at hv
    · simp only [Bool.and_eq_true, beq_iff_eq] at hu hv
      obtain ⟨rfl, rfl⟩ := hu
      obtain ⟨rfl, rfl⟩ := hv
      exact .mapping rfl (.cons (.list (.cons (.scalar rfl) .nil)) .nil)
    · cases hv
  · cases hu

/-- Whether the scenes of a text and what their own text is read as are one scene of one line. -/
def greetsBack (label line content : String) : Bool :=
  match Story.ofText content with
  | .ok story =>
    isGreeting label line (.mapping story.scenesLabel story.scenes) &&
      match story.scenesText with
      | .ok text =>
        match Yaml.load text with
        | .ok v => isGreeting label line v
        | .error _ => false
      | .error _ => false
  | .error _ => false

theorem readsBack_of_greetsBack {content : String} (label line : String)
    (h : greetsBack label line content = true) {story : Story}
    (hstory : Story.ofText content = .ok story) : story.ReadsBack := by
  intro text htext
  unfold greetsBack at h
  simp only [hstory, htext, Bool.and_eq_true] at h
  obtain ⟨hown, hread⟩ := h
  cases hload : Yaml.load text with
  | error e =>
    rw [hload] at hread
    cases hread
  | ok v =>
    rw [hload] at hread
    exact ⟨v, rfl, alike_of_isGreeting hown hread⟩

/-- Whether the check of a text gives a report that is valid. -/
def passes (w : Workspace) (content : String) : Bool :=
  match Check.text w none content with
  | .ok report => report.isValid
  | .error _ => false

theorem script_accepted_greeting :
    (booth Output.noRefusals).engine = .usual ∧
    Story.Gives room.workspace (orderFor greeting).input greeting ∧
    (∀ story, Story.ofText greeting = .ok story → story.ReadsBack) ∧
    (∃ report, Check.text room.workspace none greeting = .ok report ∧ report.isValid = true) ∧
    ∀ result f, ((booth Output.noRefusals).compile (orderFor greeting) room).1 = .ok result →
      result.outcome = .error f → f.isOfScript = false := by
  have hgives : Story.Gives room.workspace (orderFor greeting).input greeting :=
    .literal (by decide) rfl
  have hback : ∀ story, Story.ofText greeting = .ok story → story.ReadsBack := fun story =>
    readsBack_of_greetsBack "a" "hi" (by decide +kernel)
  have hpasses : passes room.workspace greeting = true := by decide +kernel
  have hreport : ∃ report, Check.text room.workspace none greeting = .ok report ∧
      report.isValid = true := by
    unfold passes at hpasses
    split at hpasses
    · next report hcheck => exact ⟨report, hcheck, hpasses⟩
    · cases hpasses
  obtain ⟨report, hcheck, hvalid⟩ := hreport
  exact ⟨rfl, hgives, hback, ⟨report, hcheck, hvalid⟩,
    (script_accepted (booth Output.noRefusals) (orderFor greeting) room greeting rfl hgives hback).1
      _ _ report hcheck hvalid⟩

/-- Whether a compile of a script fails for its variables. -/
def refusesVariables (content : String) : Bool :=
  match ((booth Output.noRefusals).compile (orderFor content) room).1 with
  | .ok ⟨.error (.noSection name), _, _⟩ => name == "variables"
  | _ => false

/-- A script can be refused that gets no report, so no issue. -/
theorem not_reported_crossed :
    ¬∀ (c : Compiler) (r : Request) (world : World) (content : String), c.engine = .usual →
      Story.Gives world.workspace r.input content →
      (∀ story, Story.ofText content = .ok story → story.ReadsBack) →
      ∀ result f, (c.compile r world).1 = .ok result → result.outcome = .error f →
        f.isOfScript = true →
        ∃ report, Check.text world.workspace none content = .ok report ∧ report.issues ≠ [] := by
  intro h
  have hrefuses : refusesVariables crossed = true := by decide +kernel
  have hfails : (Check.text room.workspace none crossed).isOk = false := by decide +kernel
  have hnone : ∀ story, Story.ofText crossed ≠ .ok story := by
    have hno : (Story.ofText crossed).isOk = false := by decide +kernel
    intro story hstory
    rw [hstory] at hno
    cases hno
  unfold refusesVariables at hrefuses
  split at hrefuses
  · next name output warnings hresult =>
    obtain ⟨report, hcheck, -⟩ := h (booth Output.noRefusals) (orderFor crossed) room crossed rfl
      (.literal (by decide) rfl) (fun story hstory => absurd hstory (hnone story)) _ _ hresult rfl rfl
    rw [hcheck] at hfails
    cases hfails
  · cases hrefuses

end Compiler
end Storybind
