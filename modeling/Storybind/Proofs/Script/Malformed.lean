import Mathlib.Tactic
import Storybind.Component.Mount
import Storybind.Proofs.Except
import Storybind.Proofs.Script.Texts
import Storybind.Script.Check

/-!
Malformed directives, as a check of the script reports them and as extraction warns about them. In a
valid script those that are left stand in branches that are a single instruction: the check does not
look at these.
-/

namespace Storybind

/-- The text of a token that is malformed. -/
def DirectiveToken.broken : DirectiveToken → List String
  | directive _ => []
  | malformed text _ => [text]

/-- The malformed directives of a text. -/
def Directive.malformed (text : String) : List String :=
  (Directive.find text).flatMap DirectiveToken.broken

/-- The malformed directives of a scene, in the texts that a walk through its instructions comes
to. -/
def Scene.malformed (walk : Value → List (String × String)) (scene : Scene) : List String :=
  scene.instructions.flatMap fun v => (walk v).flatMap fun t => Directive.malformed t.2

theorem flatMap_zipIdx {α β : Type} (xs : List α) (f : α → List β) :
    (xs.zipIdx.flatMap fun p => f p.1) = xs.flatMap f := by
  have hfst : xs.zipIdx.map Prod.fst = xs := List.zipIdx_map_fst 0 xs
  conv_rhs => rw [← hfst, List.flatMap_map]

/-! ### Extraction -/

namespace Mount

/-- The warning about a malformed directive. -/
def malformedWarning (scene text : String) : String :=
  "Malformed component directive in scene '" ++ scene ++ "': " ++ text

variable {w : Workspace} {places : Lookup} {found found' : Extraction}

theorem flatMap_sceneTokens (scene : Scene) :
    ((sceneTokens scene).flatMap fun token => token.2.broken) =
      scene.malformed (Instruction.texts true) := by
  have htext : ∀ s, (Directive.find s).flatMap (fun token => token.broken) = Directive.malformed s :=
    fun _ => rfl
  have hzip := flatMap_zipIdx scene.instructions fun v =>
    (Instruction.texts true v).flatMap fun t => Directive.malformed t.2
  simp only [sceneTokens, List.flatMap_assoc, List.flatMap_map, htext]
  exact hzip

theorem warnings_takeToken {name : String} {token : Nat × DirectiveToken}
    (h : takeToken w places name found token = .ok found') :
    found'.warnings = found.warnings ++ token.2.broken.map (malformedWarning name) := by
  obtain ⟨index, token⟩ := token
  cases token with
  | malformed text position =>
    cases h
    rfl
  | directive d =>
    obtain ⟨m, -, rfl⟩ := Except.map_eq_ok.mp h
    exact (List.append_nil _).symm

theorem ofRecord?_toRecord (scene : Scene) : Scene.ofRecord? scene.toRecord = .ok (some scene) := by
  obtain ⟨name, instructions⟩ := scene
  have hname : (Value.text name).display = name := String.ofList_toList
  simp [Scene.ofRecord?, Scene.toRecord, Entries.get?, Entries.find?, Scalar.sameKey, hname,
    Scene.itemsOf?]

theorem warnings_takeRecord {scene : Scene}
    (h : takeRecord w places found scene.toRecord = .ok found') :
    found'.warnings = found.warnings ++
      (scene.malformed (Instruction.texts true)).map (malformedWarning scene.name) := by
  rw [takeRecord, ofRecord?_toRecord] at h
  calc found'.warnings
      = found.warnings ++
          (sceneTokens scene).flatMap fun token => token.2.broken.map (malformedWarning scene.name) :=
        Except.foldlM_collects Extraction.warnings
          (fun token => token.2.broken.map (malformedWarning scene.name))
          (fun _ _ _ => warnings_takeToken) h
    _ = found.warnings ++
          ((sceneTokens scene).flatMap fun token => token.2.broken).map (malformedWarning scene.name) := by
        rw [List.map_flatMap]
    _ = found.warnings ++
          (scene.malformed (Instruction.texts true)).map (malformedWarning scene.name) := by
        rw [flatMap_sceneTokens]

theorem warnings_extract {scenes : List Scene}
    (h : extract w places (scenes.map Scene.toRecord) = .ok found) :
    found.warnings = scenes.flatMap fun scene =>
      (scene.malformed (Instruction.texts true)).map (malformedWarning scene.name) := by
  -- a directive that is well formed adds no warning, so those about malformed ones are all
  rw [extract, List.foldlM_map] at h
  exact Except.foldlM_collects Extraction.warnings
    (fun scene => (scene.malformed (Instruction.texts true)).map (malformedWarning scene.name))
    (fun _ _ _ => warnings_takeRecord) h

end Mount

/-! ### Checking -/

namespace Report

variable {r s : Report}

@[simp]
theorem issues_append (r s : Report) : (r ++ s).issues = r.issues ++ s.issues := rfl

theorem isValid_iff : r.isValid = true ↔ r.issues = [] := List.isEmpty_iff

theorem isValid_append : (r ++ s).isValid = true ↔ r.isValid = true ∧ s.isValid = true := by
  rw [isValid_iff, isValid_iff, isValid_iff, issues_append, List.append_eq_nil_iff]

theorem isValid_concat {rs : List Report} :
    (concat rs).isValid = true ↔ ∀ r ∈ rs, r.isValid = true := by
  induction rs with
  | nil => exact iff_of_true rfl nofun
  | cons r rs ih =>
    have hcons : concat (r :: rs) = r ++ concat rs := rfl
    rw [hcons, isValid_append, ih, List.forall_mem_cons]

end Report

namespace Check

open Report (issue warning)

variable {w : Workspace} {places : Lookup} {c c' : ComponentCheck} {es : Entries}

/-- The issue about a malformed directive. -/
def malformedIssue (p : Passage) (text : String) : Issue where
  kind := .component
  message := "Malformed component directive " ++ p.place ++ ": " ++ text
  location := p.location
  suggestion := "Use \x7b\x7bcomponent \"create\" \"Name\" \"script.js\" \"\" \"instanceId\" \"k=v\"\x7d\x7d"

theorem issues_componentFile {component path : String}
    (h : componentFile w places component c path = .ok c') : c'.report.issues = c.report.issues := by
  -- a file that is missing is a warning
  unfold componentFile at h
  split at h
  · cases h
    rfl
  · split at h
    · cases h
    · cases h
      rfl
    · cases h
      exact List.append_nil _

theorem issues_directive {found : Passage × DirectiveToken}
    (h : directive w places c found = .ok c') :
    c'.report.issues = c.report.issues ++ found.2.broken.map (malformedIssue found.1) := by
  obtain ⟨p, token⟩ := found
  cases token with
  | malformed text position =>
    cases h
    rfl
  | directive d =>
    have hfile : ∀ c path c', componentFile w places d.component c path = .ok c' →
        c'.report.issues = c.report.issues ++ [] := by
      intro c path c' hlooked
      rw [issues_componentFile hlooked, List.append_nil]
    have hfiles := Except.foldlM_collects (fun c : ComponentCheck => c.report.issues) (fun _ => [])
      hfile h
    rw [hfiles]
    simp [DirectiveToken.broken]

/-- The check of the components finds the malformed directives of the passages and no other issue. -/
theorem issues_components {r : Report} (h : components w places es = .ok r) :
    r.issues = (passages es).flatMap fun p => (Directive.malformed p.text).map (malformedIssue p) := by
  obtain ⟨c, hfold, rfl⟩ := Except.map_eq_ok.mp h
  have hstep : ∀ c found c', directive w places c found = .ok c' →
      c'.report.issues = c.report.issues ++ found.2.broken.map (malformedIssue found.1) :=
    fun _ _ _ => issues_directive
  have hissues := Except.foldlM_collects (fun c : ComponentCheck => c.report.issues) _ hstep hfold
  simp only [hissues, List.flatMap_assoc, List.flatMap_map, Directive.malformed, List.map_flatMap]
  rfl

theorem eq_list_of_isValid {name : String} {v : Value} (h : (sceneBody name v).isValid = true) :
    ∃ label items, v = .list label items := by
  cases v with
  | list label items => exact ⟨label, items, rfl⟩
  | _ => cases h

theorem exists_list_of_isValid (h : (scenes es).isValid = true) :
    ∀ e ∈ es, ∃ label items, e.2 = .list label items := by
  intro e he
  have hne : es.isEmpty = false := List.isEmpty_eq_false_iff.mpr (List.ne_nil_of_mem he)
  rw [scenes, hne, if_neg Bool.false_ne_true, Report.isValid_append, Report.isValid_concat,
    Report.isValid_concat] at h
  exact eq_list_of_isValid (h.2 _ (List.mem_map_of_mem he))

theorem exists_passage {e : Scalar × Value} {label : Nat} {items : List Value} {v : Value}
    {t : String × String} (he : e ∈ es) (hlist : e.2 = .list label items) (hv : v ∈ items)
    (ht : t ∈ Instruction.texts false v) : ∃ p ∈ passages es, p.text = t.2 := by
  have hindexed : v ∈ items.zipIdx.map Prod.fst := by
    rw [List.zipIdx_map_fst]
    exact hv
  obtain ⟨⟨u, index⟩, hindex, rfl⟩ := List.mem_map.mp hindexed
  refine ⟨⟨e.1.display, index + 1, t.1, t.2⟩, ?_, rfl⟩
  apply List.mem_flatMap.mpr
  refine ⟨e, he, ?_⟩
  rw [hlist]
  apply List.mem_flatMap.mpr
  refine ⟨(u, index), hindex, ?_⟩
  exact List.mem_map_of_mem ht

theorem checked_of_isValid {script : Option Path} {label place : Nat} {entries : Entries} {r : Report}
    (hscenes : Entries.get? "scenes" entries = some (.mapping place es))
    (hcheck : value w script (.mapping label entries) = .ok r) (hvalid : r.isValid = true) :
    (∀ e ∈ es, ∃ label items, e.2 = .list label items) ∧
      ∀ p ∈ passages es, Directive.malformed p.text = [] := by
  simp only [value, hscenes] at hcheck
  obtain ⟨places, -, hcheck⟩ := Except.bind_eq_ok.mp hcheck
  obtain ⟨mounted, hmounted, hr⟩ := Except.bind_eq_ok.mp hcheck
  cases hr
  simp only [Report.isValid_append] at hvalid
  -- of the six checks only those of the scenes and of the components have a part in this
  obtain ⟨⟨⟨⟨⟨-, hbodies⟩, -⟩, -⟩, hcomponents⟩, -⟩ := hvalid
  refine ⟨exists_list_of_isValid hbodies, fun p hp => ?_⟩
  have hissues := issues_components hmounted
  rw [Report.isValid_iff.mp hcomponents] at hissues
  have hnone := List.flatMap_eq_nil_iff.mp hissues.symm p hp
  exact List.map_eq_nil_iff.mp hnone

/-- The malformed directives that a valid script still has stand in branches that are a single
instruction. Extraction warns about each of them, and about nothing if there are none. -/
theorem malformed_of_isValid {script : Option Path} {label place : Nat} {entries : Entries}
    {r : Report} (hscenes : Entries.get? "scenes" entries = some (.mapping place es))
    (hcheck : value w script (.mapping label entries) = .ok r) (hvalid : r.isValid = true) :
    (∀ scene ∈ Scene.ofEntries es,
      scene.malformed (Instruction.texts false) = [] ∧
      scene.malformed (Instruction.texts true) = scene.malformed Instruction.loneTexts) ∧
    ∀ (w' : Workspace) (places : Lookup) (found : Mount.Extraction),
      Mount.extract w' places ((Scene.ofEntries es).map Scene.toRecord) = .ok found →
      (found.warnings = (Scene.ofEntries es).flatMap fun scene =>
        (scene.malformed Instruction.loneTexts).map (Mount.malformedWarning scene.name)) ∧
      (found.warnings = [] ↔
        ∀ scene ∈ Scene.ofEntries es, scene.malformed Instruction.loneTexts = []) := by
  obtain ⟨hlists, hpassages⟩ := checked_of_isValid hscenes hcheck hvalid
  have hlisted : ∀ scene ∈ Scene.ofEntries es, ∀ v ∈ scene.instructions,
      ∀ t ∈ Instruction.texts false v, Directive.malformed t.2 = [] := by
    intro scene hscene v hv t ht
    obtain ⟨e, he, rfl⟩ := List.mem_map.mp hscene
    obtain ⟨listLabel, items, hlist⟩ := hlists e he
    -- the scene is a list, so its instructions are those that were checked
    rw [hlist] at hv
    obtain ⟨p, hp, htext⟩ := exists_passage he hlist hv ht
    rw [← htext]
    exact hpassages p hp
  have hlone : ∀ scene ∈ Scene.ofEntries es,
      scene.malformed (Instruction.texts true) = scene.malformed Instruction.loneTexts := by
    intro scene hscene
    apply List.flatMap_congr
    intro v hv
    exact (Instruction.splits_texts false v).flatMap_eq (hlisted scene hscene v hv)
  refine ⟨fun scene hscene => ⟨?_, hlone scene hscene⟩, ?_⟩
  · apply List.flatMap_eq_nil_iff.mpr
    intro v hv
    exact List.flatMap_eq_nil_iff.mpr (hlisted scene hscene v hv)
  · intro w' places found hfound
    have hwarnings : found.warnings = (Scene.ofEntries es).flatMap fun scene =>
        (scene.malformed Instruction.loneTexts).map (Mount.malformedWarning scene.name) := by
      rw [Mount.warnings_extract hfound]
      apply List.flatMap_congr
      intro scene hscene
      rw [hlone scene hscene]
    refine ⟨hwarnings, ?_⟩
    rw [hwarnings, List.flatMap_eq_nil_iff]
    simp only [List.map_eq_nil_iff]

/-- A malformed directive in a branch that is a single instruction. -/
def hiddenScenes : Entries :=
  [(.text "start", .ofList [.record [("then", .text "\x7b\x7bcomponent \"create\"\x7d\x7d")]])]

def hiddenScript : Entries :=
  [(.text "title", .text "T"), (.text "description", .text "D"), (.text "scenes", .ofEntries hiddenScenes)]

theorem exists_isValid_hidden (w : Workspace) :
    ∃ r, value w none (.ofEntries hiddenScript) = .ok r ∧ r.isValid = true := by
  have htargets : allTargets hiddenScenes = [] := List.mergeSort_nil
  have hreferences : (references hiddenScenes).isValid = true := by
    rw [references, htargets, Report.isValid_append, Report.isValid_concat, Report.isValid_concat]
    refine ⟨nofun, fun r hr => ?_⟩
    obtain ⟨name, -, rfl⟩ := List.mem_map.mp hr
    split <;> rfl
  refine ⟨_, rfl, ?_⟩
  simp only [Report.isValid_append]
  exact ⟨⟨⟨⟨⟨by decide +kernel, by decide +kernel⟩, hreferences⟩, rfl⟩, rfl⟩, rfl⟩

theorem extract_hidden (w : Workspace) (places : Lookup) :
    ∃ found, Mount.extract w places ((Scene.ofEntries hiddenScenes).map Scene.toRecord) = .ok found ∧
      found.warnings = [Mount.malformedWarning "start" "\x7b\x7bcomponent \"create\"\x7d\x7d"] :=
  ⟨_, rfl, rfl⟩

def bare : Workspace := ⟨⟨[]⟩, ⟨"/", []⟩, ⟨"/", []⟩, ⟨"/", []⟩⟩

theorem malformed_of_isValid_hidden :
    ∃ r found, Entries.get? "scenes" hiddenScript = some (.ofEntries hiddenScenes) ∧
      value bare none (.ofEntries hiddenScript) = .ok r ∧ r.isValid = true ∧
      Mount.extract bare [] ((Scene.ofEntries hiddenScenes).map Scene.toRecord) = .ok found ∧
      found.warnings = (Scene.ofEntries hiddenScenes).flatMap fun scene =>
        (scene.malformed Instruction.loneTexts).map (Mount.malformedWarning scene.name) := by
  obtain ⟨r, hcheck, hvalid⟩ := exists_isValid_hidden bare
  obtain ⟨found, hfound, -⟩ := extract_hidden bare []
  have hwarnings := (malformed_of_isValid rfl hcheck hvalid).2 bare [] found hfound
  exact ⟨r, found, rfl, hcheck, hvalid, hfound, hwarnings.1⟩

/-- Extraction can warn about a script that is valid. -/
theorem not_silent_hidden :
    ¬∀ (w : Workspace) (script : Option Path) (label place : Nat) (entries es : Entries) (r : Report),
      Entries.get? "scenes" entries = some (.mapping place es) →
      value w script (.mapping label entries) = .ok r → r.isValid = true →
      ∀ places, Lookup.usual w script = .ok places →
      ∀ found, Mount.extract w places ((Scene.ofEntries es).map Scene.toRecord) = .ok found →
        found.warnings = [] := by
  intro h
  obtain ⟨r, hcheck, hvalid⟩ := exists_isValid_hidden bare
  obtain ⟨places, hplaces⟩ : ∃ places, Lookup.usual bare none = .ok places := ⟨_, rfl⟩
  obtain ⟨found, hfound, hwarnings⟩ := extract_hidden bare places
  have hsilent := h bare none 0 0 hiddenScript hiddenScenes r rfl hcheck hvalid places hplaces found hfound
  rw [hwarnings] at hsilent
  cases hsilent

end Check

end Storybind
