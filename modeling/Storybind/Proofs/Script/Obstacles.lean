import Mathlib.Tactic
import Storybind.Proofs.Compile.Supplies
import Storybind.Proofs.Lookup
import Storybind.Proofs.Script.Malformed
import Storybind.Proofs.Script.References
import Storybind.Script.Check

/-!
Scripts that get no report. The check of a text ends with a report, and that of a text that is not
YAML with a single issue, unless one of a few things stands in its way: a scalar that YAML has but
that denotes nothing, a message that cannot be made, or a path that cannot be looked up.
-/

namespace Storybind.Check

open Storybind.Except (Fails not_fails not_fails_ok not_fails_pure fails_bind fails_bind_of fails_map
  fails_mapError fails_foldlM_of_invariant)
open Instruction (itemsAt mem_itemsAt)

variable {w : Workspace} {places : Lookup} {script : Option Path} {es : Entries} {v : Value}
  {path : List Nat}

/-! ### Instructions -/

/-- What stops the check of an instruction, with the labels of the instructions around it: an action
whose type cannot be shown, the instruction itself or a list with it in one of its branches, or what
stops the check of an instruction in a branch. -/
inductive Stuck : List Nat → Value → Prop
  | action {path : List Nat} {label : Nat} {es : Entries} {a : Value} (ha : a ∈ itemsAt "actions" es)
      (h : hidesType a = true) : Stuck path (.mapping label es)
  | inItself {path : List Nat} {label : Nat} {es : Entries} (hlabel : label ≠ 0) (h : label ∈ path) :
      Stuck path (.mapping label es)
  | back {path : List Nat} {label : Nat} (h : label ∈ path) : Stuck path (.back label)
  | inBranch {path : List Nat} {label around : Nat} {name : String} {es : Entries}
      (hname : name = "then" ∨ name = "else") (hback : Entries.get? name es = some (.back around))
      (h : around ∉ label :: path) : Stuck path (.mapping label es)
  | branch {path : List Nat} {label place : Nat} {name : String} {es : Entries} {items : List Value}
      {v : Value} (hname : name = "then" ∨ name = "else")
      (hitems : Entries.get? name es = some (.list place items)) (hv : v ∈ items)
      (h : Stuck (label :: path) v) : Stuck path (.mapping label es)

/-- What stops the check of the branch under a name. -/
def StuckUnder (path : List Nat) (name : String) (es : Entries) : Prop :=
  (∃ place items, Entries.get? name es = some (.list place items) ∧ ∃ v ∈ items, Stuck path v) ∨
    ∃ around, Entries.get? name es = some (.back around) ∧ around ∉ path

theorem stuckUnder_cons {name : String} {k : Scalar} :
    StuckUnder path name ((k, v) :: es) ↔
      if k.sameKey (.text name) = true then
        (∃ place items, v = .list place items ∧ ∃ u ∈ items, Stuck path u) ∨
          ∃ around, v = .back around ∧ around ∉ path
      else StuckUnder path name es := by
  simp only [StuckUnder, Entries.get?, Entries.find?]
  cases k.sameKey (.text name) <;> simp

theorem Stuck.of_branch {label : Nat} {name : String} (hname : name = "then" ∨ name = "else")
    (h : StuckUnder (label :: path) name es) : Stuck path (.mapping label es) := by
  rcases h with ⟨place, items, hitems, v, hv, h⟩ | ⟨around, hback, h⟩
  · exact .branch hname hitems hv h
  · exact .inBranch hname hback h

theorem stuck_mapping {label : Nat} : Stuck path (.mapping label es) ↔
    (label ≠ 0 ∧ label ∈ path) ∨ (∃ a ∈ itemsAt "actions" es, hidesType a = true) ∨
      StuckUnder (label :: path) "then" es ∨ StuckUnder (label :: path) "else" es := by
  constructor
  · intro h
    cases h with
    | action ha h => exact .inr (.inl ⟨_, ha, h⟩)
    | inItself hlabel h => exact .inl ⟨hlabel, h⟩
    | inBranch hname hback h =>
      rcases hname with rfl | rfl
      · exact .inr (.inr (.inl (.inr ⟨_, hback, h⟩)))
      · exact .inr (.inr (.inr (.inr ⟨_, hback, h⟩)))
    | branch hname hitems hv h =>
      rcases hname with rfl | rfl
      · exact .inr (.inr (.inl (.inl ⟨_, _, hitems, _, hv, h⟩)))
      · exact .inr (.inr (.inr (.inl ⟨_, _, hitems, _, hv, h⟩)))
  · rintro (⟨hlabel, h⟩ | ⟨a, ha, h⟩ | h | h)
    · exact .inItself hlabel h
    · exact .action ha h
    · exact .of_branch (.inl rfl) h
    · exact .of_branch (.inr rfl) h

mutual

theorem isSome_instructionObstacle (path : List Nat) : (v : Value) →
    ((instructionObstacle? path v).isSome ↔ Stuck path v)
  | .mapping label es => by
    rw [instructionObstacle?, stuck_mapping]
    by_cases hself : (label ≠ 0 && path.contains label) = true
    · rw [if_pos hself]
      exact iff_of_true rfl (.inl (by simpa using hself))
    · have hnotself : ¬(label ≠ 0 ∧ label ∈ path) := by simpa using hself
      rw [if_neg hself, or_iff_right hnotself, ← List.any_eq_true]
      by_cases hactions : (itemsAt "actions" es).any hidesType = true
      · rw [if_pos hactions]
        exact iff_of_true rfl (.inl hactions)
      · rw [if_neg hactions, or_iff_right hactions, Option.isSome_or, Bool.or_eq_true,
          isSome_branchObstacle (label :: path) "then" es, isSome_branchObstacle (label :: path) "else" es]
  | .back label => by
    rw [instructionObstacle?]
    by_cases h : label ∈ path
    · exact iff_of_true (by simp [h]) (.back h)
    · refine iff_of_false (by simp [h]) fun hstuck => ?_
      cases hstuck with
      | back hmem => exact h hmem
  | .scalar _ => iff_of_false (by simp [instructionObstacle?]) nofun
  | .list _ _ => iff_of_false (by simp [instructionObstacle?]) nofun
  | .set _ _ => iff_of_false (by simp [instructionObstacle?]) nofun
  | .pair _ _ => iff_of_false (by simp [instructionObstacle?]) nofun

theorem isSome_branchObstacle (path : List Nat) (name : String) : (es : List (Scalar × Value)) →
    ((branchObstacle? path name es).isSome ↔ StuckUnder path name es)
  | [] => by simp [branchObstacle?, StuckUnder, Entries.get?, Entries.find?]
  | (k, v) :: rest => by
    have hrest := isSome_branchObstacle path name rest
    rw [stuckUnder_cons]
    cases hk : k.sameKey (.text name) with
    | true =>
      cases v
      case list place items =>
        have hitems := isSome_itemsObstacle path items
        simp [branchObstacle?, hk, hitems]
      case back around => by_cases h : around ∈ path <;> simp [branchObstacle?, hk, h]
      all_goals simp [branchObstacle?, hk]
    | false =>
      -- the branch is not here, so it is further on
      cases v <;> simp only [branchObstacle?, hk, Bool.false_eq_true, if_false] <;> exact hrest

theorem isSome_itemsObstacle (path : List Nat) : (items : List Value) →
    ((itemsObstacle? path items).isSome ↔ ∃ v ∈ items, Stuck path v)
  | [] => by simp [itemsObstacle?]
  | v :: rest => by
    rw [itemsObstacle?, Option.isSome_or, Bool.or_eq_true, isSome_instructionObstacle path v,
      isSome_itemsObstacle path rest, List.exists_mem_cons_iff]

end

/-! ### Loaded scripts -/

/-- What stops the check of a loaded script. -/
inductive Stopped : Value → Prop
  | asset {label : Nat} {es : Entries} {a : Value} (ha : a ∈ itemsAt "assets" es)
      (h : hidesName a = true) : Stopped (.mapping label es)
  | sceneName {label place : Nat} {es scenes : Entries} {e : Scalar × Value}
      (hscenes : Entries.get? "scenes" es = some (.mapping place scenes)) (he : e ∈ scenes)
      (h : Yaml.isUnwritable e.1 = true) : Stopped (.mapping label es)
  | instruction {label place inner : Nat} {es scenes : Entries} {e : Scalar × Value}
      {items : List Value} {v : Value}
      (hscenes : Entries.get? "scenes" es = some (.mapping place scenes)) (he : e ∈ scenes)
      (hlist : e.2 = .list inner items) (hv : v ∈ items) (h : Stuck [] v) : Stopped (.mapping label es)

theorem isSome_sceneObstacle : (sceneObstacle? v).isSome ↔
    ∃ label items, v = .list label items ∧ ∃ u ∈ items, Stuck [] u := by
  cases v with
  | list label items => simp [sceneObstacle?, isSome_itemsObstacle]
  | _ => simp [sceneObstacle?]

theorem isSome_scenesObstacle : (scenesObstacle? es).isSome ↔
    (∃ e ∈ es, Yaml.isUnwritable e.1 = true) ∨
      ∃ e ∈ es, ∃ label items, e.2 = .list label items ∧ ∃ u ∈ items, Stuck [] u := by
  unfold scenesObstacle?
  by_cases hnames : (es.any fun e => Yaml.isUnwritable e.1) = true
  · rw [if_pos hnames]
    exact iff_of_true rfl (.inl (List.any_eq_true.mp hnames))
  · rw [if_neg hnames, List.findSome?_isSome_iff, or_iff_right (mt List.any_eq_true.mpr hnames)]
    simp only [isSome_sceneObstacle]

theorem isSome_obstacle : (obstacle? v).isSome ↔ Stopped v := by
  cases v with
  | mapping label es =>
    rw [obstacle?]
    by_cases hassets : (itemsAt "assets" es).any hidesName = true
    · rw [if_pos hassets]
      obtain ⟨a, ha, h⟩ := List.any_eq_true.mp hassets
      exact iff_of_true rfl (.asset ha h)
    · rw [if_neg hassets]
      constructor
      · intro hsome
        split at hsome
        · next place scenes hscenes =>
          rcases isSome_scenesObstacle.mp hsome with ⟨e, he, h⟩ | ⟨e, he, inner, items, hlist, u, hu, h⟩
          · exact .sceneName hscenes he h
          · exact .instruction hscenes he hlist hu h
        · cases hsome
      · intro h
        cases h with
        | asset ha h => exact absurd (List.any_eq_true.mpr ⟨_, ha, h⟩) hassets
        | sceneName hscenes he h =>
          rw [hscenes]
          exact isSome_scenesObstacle.mpr (.inl ⟨_, he, h⟩)
        | instruction hscenes he hlist hv h =>
          rw [hscenes]
          exact isSome_scenesObstacle.mpr (.inr ⟨_, he, _, _, hlist, _, hv, h⟩)
  | _ =>
    refine iff_of_false (by simp [obstacle?]) fun h => ?_
    cases h

/-! ### Components -/

/-- Whether a directive in the texts of scenes names a path. -/
def Mentions (es : Entries) (requested : String) : Prop :=
  ∃ p ∈ passages es, ∃ d, .directive d ∈ Directive.find p.text ∧
    requested ∈ d.script :: d.stylesheet.toList

/-- All that has been looked up was looked up without failing. -/
def Answered (w : Workspace) (places : Lookup) (c : ComponentCheck) : Prop :=
  ∀ requested ∈ c.checked, ¬Fails (Lookup.find w requested places)

variable {c c' : ComponentCheck} {component requested : String}

theorem fails_componentFile (h : Answered w places c) :
    Fails (componentFile w places component c requested) ↔ Fails (Lookup.find w requested places) := by
  unfold componentFile
  by_cases hskip : (requested.isEmpty || c.checked.contains requested) = true
  · rw [if_pos hskip]
    refine iff_of_false (not_fails_ok _) ?_
    rcases Bool.or_eq_true_iff.mp hskip with hempty | hchecked
    · -- the empty path is never looked up
      rw [Lookup.find, hempty, Bool.true_or, if_pos rfl]
      exact not_fails_ok _
    · exact h requested (by simpa using hchecked)
  · rw [if_neg hskip]
    cases Lookup.find w requested places with
    | error e => exact iff_of_true ⟨e, rfl⟩ ⟨e, rfl⟩
    | ok found => cases found <;> exact iff_of_false (not_fails_ok _) (not_fails_ok _)

theorem Answered.componentFile (h : Answered w places c)
    (hstep : componentFile w places component c requested = .ok c') : Answered w places c' := by
  have hfound : ¬Fails (Lookup.find w requested places) := by
    rw [← fails_componentFile h, hstep]
    exact not_fails_ok c'
  have hcons : ∀ other ∈ requested :: c.checked, ¬Fails (Lookup.find w other places) :=
    List.forall_mem_cons.mpr ⟨hfound, h⟩
  unfold Check.componentFile at hstep
  split at hstep
  · cases hstep
    exact h
  · split at hstep
    · cases hstep
    · cases hstep
      exact hcons
    · cases hstep
      exact hcons

theorem directive_invariant (h : Answered w places c) (found : Passage × DirectiveToken) :
    (Fails (directive w places c found) ↔ ∃ d, found.2 = .directive d ∧
      ∃ requested ∈ d.script :: d.stylesheet.toList, Fails (Lookup.find w requested places)) ∧
    ∀ c', directive w places c found = .ok c' → Answered w places c' := by
  obtain ⟨p, token⟩ := found
  cases token with
  | malformed text position =>
    refine ⟨iff_of_false (not_fails_ok _) (by simp), fun c' hstep => ?_⟩
    cases hstep
    exact h
  | directive d =>
    have hfails (c : ComponentCheck) (requested : String) (hc : Answered w places c) :
        Fails (Check.componentFile w places d.component c requested) ↔
          Fails (Lookup.find w requested places) := fails_componentFile hc
    have hfiles := fails_foldlM_of_invariant hfails (fun c requested c' => Answered.componentFile) h
      (d.script :: d.stylesheet.toList)
    refine ⟨?_, hfiles.2⟩
    rw [directive, hfiles.1]
    simp only [DirectiveToken.directive.injEq, exists_eq_left']

/-- The components are checked unless a path that a directive names cannot be looked up. -/
theorem fails_components : Fails (components w places es) ↔
    ∃ requested, Mentions es requested ∧ Lookup.Unsearchable w places requested := by
  have hnothing : Answered w places ⟨[], .empty⟩ := nofun
  rw [components, fails_map, (fails_foldlM_of_invariant
    (fun c found h => (directive_invariant h found).1)
    (fun c found c' h => (directive_invariant h found).2 c') hnothing _).1]
  simp only [Lookup.fails_find]
  constructor
  · rintro ⟨found, hfound, d, htoken, requested, hrequested, h⟩
    obtain ⟨p, hp, htokens⟩ := List.mem_flatMap.mp hfound
    obtain ⟨token, hd, rfl⟩ := List.mem_map.mp htokens
    obtain rfl : token = .directive d := htoken
    exact ⟨requested, ⟨p, hp, d, hd, hrequested⟩, h⟩
  · rintro ⟨requested, ⟨p, hp, d, hd, hrequested⟩, h⟩
    refine ⟨(p, .directive d), ?_, d, rfl, requested, hrequested, h⟩
    exact List.mem_flatMap.mpr ⟨p, hp, List.mem_map_of_mem hd⟩

/-- What stands in the way of the look-ups for the components of scenes. -/
inductive Astray (w : Workspace) (script : Option Path) (scenes : Entries) : Prop where
  | script {p : Path} (hscript : script = some p) (h : '\x00' ∈ p.toText.toList)
  | component {places : Lookup} {requested : String} (hplaces : Lookup.usual w script = .ok places)
      (hmentions : Mentions scenes requested) (h : Lookup.Unsearchable w places requested)

theorem fails_value : Fails (value w script v) ↔
    ∃ label entries place scenes, v = .mapping label entries ∧
      Entries.get? "scenes" entries = some (.mapping place scenes) ∧ Astray w script scenes := by
  unfold value
  split
  · next label entries =>
    split
    · next place scenes hscenes =>
      have hastray : Astray w script scenes ↔ Fails (Lookup.usual w script) ∨
          ∃ places, Lookup.usual w script = .ok places ∧ Fails (components w places scenes) := by
        simp only [Lookup.fails_usual, fails_components]
        constructor
        · intro h
          cases h with
          | script hscript h => exact .inl ⟨_, hscript, h⟩
          | component hplaces hmentions h => exact .inr ⟨_, hplaces, _, hmentions, h⟩
        · rintro (⟨p, hscript, h⟩ | ⟨places, hplaces, requested, hmentions, h⟩)
          · exact .script hscript h
          · exact .component hplaces hmentions h
      rw [fails_bind]
      simp only [fails_bind, not_fails_pure, and_false, exists_false, or_false]
      rw [← hastray]
      constructor
      · exact fun h => ⟨label, entries, place, scenes, rfl, hscenes, h⟩
      · rintro ⟨_, _, _, _, hv, hsame, h⟩
        cases hv
        cases hscenes.symm.trans hsame
        exact h
    · next hnone =>
      refine iff_of_false (not_fails_ok _) ?_
      rintro ⟨_, _, place, scenes, hv, hscenes, -⟩
      cases hv
      exact hnone place scenes hscenes
  · next hnone =>
    refine iff_of_false (not_fails_ok _) ?_
    rintro ⟨label, entries, _, _, rfl, -⟩
    exact hnone label entries rfl

/-! ### Texts -/

/-- Why the check of a text gives no report. -/
inductive Unreported (w : Workspace) (script : Option Path) (content : String) : Prop where
  | scalar {e : Yaml.ScalarError} (h : Yaml.load content = .error (.scalar e))
  | stopped {v : Value} (hload : Yaml.load content = .ok v) (h : Stopped v)
  | astray {label place : Nat} {entries scenes : Entries}
      (hload : Yaml.load content = .ok (.mapping label entries))
      (hscenes : Entries.get? "scenes" entries = some (.mapping place scenes))
      (h : Astray w script scenes)

theorem fails_loaded : Fails (loaded w script v) ↔ Stopped v ∨ Fails (value w script v) := by
  rw [← isSome_obstacle]
  unfold loaded
  cases obstacle? v with
  | some o => exact iff_of_true ⟨_, rfl⟩ (.inl rfl)
  | none => simp [fails_mapError]

theorem loaded_eq_ok {r : Report} (h : loaded w script v = .ok r) : value w script v = .ok r := by
  unfold loaded at h
  split at h
  · cases h
  · exact Except.mapError_eq_ok.mp h

theorem fails_text {content : String} :
    Fails (text w script content) ↔ Unreported w script content := by
  unfold text
  cases hload : Yaml.load content with
  | error e =>
    cases e with
    | refused r =>
      refine iff_of_false (not_fails_ok _) fun h => ?_
      cases h with
      | scalar h => cases hload.symm.trans h
      | stopped h => cases hload.symm.trans h
      | astray h => cases hload.symm.trans h
    | scalar e => exact iff_of_true ⟨_, rfl⟩ (.scalar hload)
  | ok v =>
    simp only [fails_loaded, fails_value]
    constructor
    · rintro (h | ⟨label, entries, place, scenes, rfl, hscenes, h⟩)
      · exact .stopped hload h
      · exact .astray hload hscenes h
    · intro h
      cases h with
      | scalar h => cases hload.symm.trans h
      | stopped hsame h =>
        cases hload.symm.trans hsame
        exact .inl h
      | astray hsame hscenes h =>
        cases hload.symm.trans hsame
        exact .inr ⟨_, _, _, _, rfl, hscenes, h⟩

/-- A day in the thirteenth month of a year. -/
def noDay : String := "a: 2026-13-45\n"

/-- Whether a text has a scalar that denotes nothing. -/
def hasNoScalar (content : String) : Bool :=
  match Yaml.load content with
  | .error (.scalar _) => true
  | _ => false

theorem exists_scalar_of_hasNoScalar (content : String) (h : hasNoScalar content = true) :
    ∃ e, Yaml.load content = .error (.scalar e) := by
  unfold hasNoScalar at h
  split at h
  · next e hload => exact ⟨e, hload⟩
  · cases h

end Storybind.Check
