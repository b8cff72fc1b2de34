import Mathlib.Tactic
import Storybind.Proofs.Entries
import Storybind.Proofs.Script.Reach
import Storybind.Proofs.Text.Order
import Storybind.Proofs.Text.Pieces
import Storybind.Script.Check
import Storybind.Script.Scene

/-!
References between scenes. What is collected from an instruction is what its fields, its choices and
the lists of its branches refer to, at any depth. The check reports each target once that is no text
among the keys, and warns about each scene to which no path of defined references leads.

A scene has the text of its key for a name, whatever scalar the key is; the check takes none but texts
for names, so it reports targets that are scenes under other keys.
-/

namespace Storybind

/-! ### What an instruction refers to -/

namespace Instruction

/-- Whether an instruction refers to a scene: in a field of its own, in a choice, or in an
instruction in the list of a branch. -/
inductive Refers : Value → String → Prop
  | field {label : Nat} {es : Entries} {name t : String} (hname : name = "goto" ∨ name = "jump")
      (ht : Entries.get? name es = some (.text t)) : Refers (.mapping label es) t
  | choice {label place inner : Nat} {es fields : Entries} {items : List Value} {t : String}
      (hchoices : Entries.get? "choices" es = some (.list place items))
      (hchoice : .mapping inner fields ∈ items)
      (ht : Entries.get? "goto" fields = some (.text t)) : Refers (.mapping label es) t
  | branch {label place : Nat} {es : Entries} {name t : String} {items : List Value} {v : Value}
      (hname : name = "then" ∨ name = "else")
      (hbranch : Entries.get? name es = some (.list place items)) (hv : v ∈ items)
      (h : Refers v t) : Refers (.mapping label es) t

variable {es : Entries} {name t : String} {v : Value} {items : List Value} {label place : Nat}

theorem textAt?_eq_some : textAt? name es = some t ↔ Entries.get? name es = some (.text t) := by
  unfold textAt?
  split
  · next s h => simp [h]
  · next h => simpa using h t

theorem mem_itemsAt : v ∈ itemsAt name es ↔
    ∃ place items, Entries.get? name es = some (.list place items) ∧ v ∈ items := by
  unfold itemsAt
  split
  · next place items h => simp [h]
  · next h =>
    simp only [List.not_mem_nil, false_iff, not_exists, not_and]
    exact fun place items hitems => absurd hitems (h place items)

theorem choiceField?_eq_some : choiceField? name v = some t ↔
    ∃ inner fields, v = .mapping inner fields ∧ Entries.get? name fields = some (.text t) := by
  unfold choiceField?
  split
  · next inner fields => simp [textAt?_eq_some]
  · next h =>
    simp only [reduceCtorEq, false_iff, not_exists, not_and]
    exact fun inner fields hv => absurd hv (h inner fields)

theorem refers_of_mem_ownTargets (h : t ∈ ownTargets es) : Refers (.mapping label es) t := by
  rcases List.mem_append.mp h with h | h
  · obtain ⟨name, hname, ht⟩ := List.mem_filterMap.mp h
    exact Refers.field (by simpa [targetFields] using hname) (textAt?_eq_some.mp ht)
  · obtain ⟨choice, hchoice, ht⟩ := List.mem_filterMap.mp h
    obtain ⟨place, items, hchoices, hmem⟩ := mem_itemsAt.mp hchoice
    obtain ⟨inner, fields, rfl, hgoto⟩ := choiceField?_eq_some.mp ht
    exact Refers.choice hchoices hmem hgoto

mutual

theorem refers_of_mem_targets : (v : Value) → t ∈ targets v → Refers v t
  | .mapping _ es, h => by
    rw [targets, List.mem_append, List.mem_append] at h
    rcases h with (h | h) | h
    · exact refers_of_mem_ownTargets h
    · obtain ⟨place, items, v, hbranch, hv, ht⟩ := refers_of_mem_branchTargets "then" es h
      exact Refers.branch (Or.inl rfl) hbranch hv ht
    · obtain ⟨place, items, v, hbranch, hv, ht⟩ := refers_of_mem_branchTargets "else" es h
      exact Refers.branch (Or.inr rfl) hbranch hv ht
  | .scalar _, h => absurd h List.not_mem_nil
  | .list _ _, h => absurd h List.not_mem_nil
  | .set _ _, h => absurd h List.not_mem_nil
  | .pair _ _, h => absurd h List.not_mem_nil
  | .back _, h => absurd h List.not_mem_nil

theorem refers_of_mem_branchTargets (name : String) : (es : List (Scalar × Value)) →
    t ∈ branchTargets name es →
      ∃ place items v, Entries.get? name es = some (.list place items) ∧ v ∈ items ∧ Refers v t
  | [], h => absurd h List.not_mem_nil
  | (k, v) :: rest, h => by
    have hrest := refers_of_mem_branchTargets name rest
    unfold Entries.get? Entries.find?
    cases hk : k.sameKey (.text name) with
    | true =>
      cases v
      case list place items =>
        simp only [branchTargets, hk, if_true] at h
        obtain ⟨v, hv, ht⟩ := refers_of_mem_itemTargets items h
        exact ⟨place, items, v, rfl, hv, ht⟩
      all_goals
        simp only [branchTargets, hk, if_true] at h
        exact absurd h List.not_mem_nil
    | false =>
      -- the branch is not here, so it is further on
      cases v
      all_goals
        simp only [branchTargets, hk, Bool.false_eq_true, if_false] at h ⊢
        exact hrest h

theorem refers_of_mem_itemTargets : (items : List Value) → t ∈ itemTargets items →
    ∃ v ∈ items, Refers v t
  | [], h => absurd h List.not_mem_nil
  | v :: rest, h => by
    rw [itemTargets, List.mem_append] at h
    rcases h with h | h
    · exact ⟨v, List.mem_cons_self, refers_of_mem_targets v h⟩
    · obtain ⟨u, hu, ht⟩ := refers_of_mem_itemTargets rest h
      exact ⟨u, List.mem_cons_of_mem v hu, ht⟩

end

theorem mem_itemTargets (hv : v ∈ items) (ht : t ∈ targets v) : t ∈ itemTargets items := by
  induction items with
  | nil => exact absurd hv List.not_mem_nil
  | cons u rest ih =>
    rw [itemTargets, List.mem_append]
    rcases List.mem_cons.mp hv with rfl | hv
    · exact Or.inl ht
    · exact Or.inr (ih hv)

theorem branchTargets_eq (h : Entries.get? name es = some (.list place items)) :
    branchTargets name es = itemTargets items := by
  induction es with
  | nil => cases h
  | cons e rest ih =>
    obtain ⟨k, v⟩ := e
    unfold Entries.get? Entries.find? at h
    cases hk : k.sameKey (.text name) with
    | true =>
      rw [hk, if_pos rfl] at h
      cases h
      simp only [branchTargets, hk, if_true]
    | false =>
      rw [hk, if_neg Bool.false_ne_true] at h
      cases v <;> simp only [branchTargets, hk, Bool.false_eq_true, if_false] <;> exact ih h

theorem mem_ownTargets_of_field (hname : name = "goto" ∨ name = "jump")
    (ht : Entries.get? name es = some (.text t)) : t ∈ ownTargets es :=
  List.mem_append_left _
    (List.mem_filterMap.mpr ⟨name, by simpa [targetFields] using hname, textAt?_eq_some.mpr ht⟩)

/-- The targets of an instruction are the scenes that it refers to. -/
theorem mem_targets_iff : t ∈ targets v ↔ Refers v t := by
  refine ⟨refers_of_mem_targets v, fun h => ?_⟩
  induction h with
  | field hname ht =>
    rw [targets, List.mem_append, List.mem_append]
    exact Or.inl (Or.inl (mem_ownTargets_of_field hname ht))
  | choice hchoices hchoice ht =>
    rw [targets, List.mem_append, List.mem_append]
    refine Or.inl (Or.inl (List.mem_append_right _ (List.mem_filterMap.mpr ?_)))
    exact ⟨_, mem_itemsAt.mpr ⟨_, _, hchoices, hchoice⟩, choiceField?_eq_some.mpr ⟨_, _, rfl, ht⟩⟩
  | branch hname hbranch hv _ ih =>
    rw [targets, List.mem_append, List.mem_append]
    rcases hname with rfl | rfl
    · exact Or.inl (Or.inr (branchTargets_eq hbranch ▸ mem_itemTargets hv ih))
    · exact Or.inr (branchTargets_eq hbranch ▸ mem_itemTargets hv ih)

/-- Whether the content of a scene, where it is a list, refers to a scene. -/
def SceneRefers (content : Value) (t : String) : Prop :=
  ∃ label items, content = .list label items ∧ ∃ v ∈ items, Refers v t

theorem mem_sceneTargets_iff {content : Value} :
    t ∈ sceneTargets content ↔ SceneRefers content t := by
  unfold sceneTargets SceneRefers
  split
  · next label items =>
    constructor
    · intro h
      exact ⟨label, items, rfl, refers_of_mem_itemTargets items h⟩
    · rintro ⟨_, _, heq, v, hv, ht⟩
      cases heq
      exact mem_itemTargets hv (mem_targets_iff.mpr ht)
  · next h =>
    refine iff_of_false List.not_mem_nil ?_
    rintro ⟨label, items, rfl, -⟩
    exact h label items rfl

end Instruction

/-! ### What the check of references tells -/

namespace Report

theorem issues_concat (rs : List Report) : (concat rs).issues = rs.flatMap (·.issues) := by
  induction rs with
  | nil => rfl
  | cons r rs ih => exact congrArg (r.issues ++ ·) ih

theorem warnings_concat (rs : List Report) : (concat rs).warnings = rs.flatMap (·.warnings) := by
  induction rs with
  | nil => rfl
  | cons r rs ih => exact congrArg (r.warnings ++ ·) ih

end Report

namespace Check

open Report (warning)

open Instruction (SceneRefers)
open Reach (Reaches Search)

/-- The issue about a scene that is not defined. -/
def undefinedIssue (target : String) : Issue where
  kind := .reference
  message := "Scene '" ++ target ++ "' is referenced but not defined"
  location := none
  suggestion := "Create scene '" ++ target ++ "' or fix the reference"

/-- The warning about a scene that is not reached. -/
def unreachableWarning (name : String) : String :=
  "Scene '" ++ name ++ "' may be unreachable from the starting scene"

/-- Whether the lower case of a name holds a piece that hints at a start. -/
def Hints (name : String) : Prop :=
  ∃ hint ∈ startHints, hint.toList <:+: (Text.lower name).toList

/-- Whether a story may start at a scene: at one whose name hints at it, and at the first one where
no name does. -/
def IsStart (names : List String) (name : String) : Prop :=
  name ∈ names ∧ Hints name ∨ (∀ n ∈ names, ¬Hints n) ∧ names.head? = some name

/-- Whether a defined scene refers to a defined scene. -/
def LeadsTo (scenes : List (String × Value)) (a b : String) : Prop :=
  (∃ content, scenes.lookup a = some content ∧ SceneRefers content b) ∧ b ∈ scenes.map Prod.fst

/-- Whether a path of defined references leads to a scene from one where a story may start. -/
def IsReached (scenes : List (String × Value)) (name : String) : Prop :=
  ∃ start, IsStart (scenes.map Prod.fst) start ∧ Relation.ReflTransGen (LeadsTo scenes) start name

variable {es : Entries} {scenes : List (String × Value)} {names : List String} {t n : String}

theorem mem_allTargets : t ∈ allTargets es ↔ ∃ e ∈ es, SceneRefers e.2 t := by
  rw [allTargets, sortedOnce, Text.mem_sort_eraseDups, List.mem_flatMap]
  simp only [Instruction.mem_sceneTargets_iff]

theorem flatMap_unless {α β : Type} (p : α → Bool) (f : α → β) (xs : List α) :
    (xs.flatMap fun x => if p x then [] else [f x]) = (xs.filter fun x => !p x).map f := by
  induction xs with
  | nil => rfl
  | cons x xs ih =>
    rw [List.flatMap_cons, ih, List.filter_cons]
    cases p x <;> rfl

theorem references_eq (es : Entries) : references es =
    .concat (((allTargets es).filter fun t => !Entries.has (.text t) es).map fun t =>
        ⟨[undefinedIssue t], []⟩) ++
      .concat ((es.map fun e => e.1.display).map fun n =>
        ⟨[], if (reachable es).contains n then [] else [unreachableWarning n]⟩) := by
  have hwarned (n : String) : (if (reachable es).contains n then .empty
      else warning (unreachableWarning n) : Report) =
        ⟨[], if (reachable es).contains n then [] else [unreachableWarning n]⟩ := by
    split <;> rfl
  simp only [← hwarned]
  rfl

/-- The issues of the check are about the targets that are no texts among the keys. -/
theorem issues_references (es : Entries) : (references es).issues =
    ((allTargets es).filter fun t => !Entries.has (.text t) es).map undefinedIssue := by
  have happend (a b : Report) : (a ++ b).issues = a.issues ++ b.issues := rfl
  rw [references_eq, happend, Report.issues_concat, Report.issues_concat, List.flatMap_map,
    List.flatMap_map, List.flatMap_eq_nil_iff.mpr fun _ _ => rfl, List.append_nil,
    List.map_eq_flatMap]

/-- The warnings of the check are about the names that are not among the reachable ones. -/
theorem warnings_references (es : Entries) : (references es).warnings =
    ((es.map fun e => e.1.display).filter fun n => !(reachable es).contains n).map
      unreachableWarning := by
  have happend (a b : Report) : (a ++ b).warnings = a.warnings ++ b.warnings := rfl
  rw [references_eq, happend, Report.warnings_concat, Report.warnings_concat, List.flatMap_map,
    List.flatMap_map, List.flatMap_eq_nil_iff.mpr fun _ _ => rfl, List.nil_append,
    flatMap_unless]

/-! ### Paths between scenes -/

theorem names_ofTexts (scenes : List (String × Value)) :
    (Entries.ofTexts scenes).map (fun e => e.1.display) = scenes.map Prod.fst := by
  have hdisplay (s : String) : (Scalar.text s).display = s := String.ofList_toList
  rw [Entries.ofTexts, List.map_map]
  exact List.map_congr_left fun s _ => hdisplay s.1

theorem mem_links_iff {a b : String} :
    b ∈ links (Entries.ofTexts scenes) a ↔ LeadsTo scenes a b := by
  unfold links LeadsTo
  rw [List.mem_filter, Entries.has_ofTexts, Entries.get?_ofTexts]
  cases scenes.lookup a with
  | none => simp
  | some content => simp [Instruction.mem_sceneTargets_iff]

theorem mem_sortedOnce {xs : List String} {x : String} : x ∈ sortedOnce xs ↔ x ∈ xs :=
  Text.mem_sort_eraseDups

theorem hints_iff : (startHints.any (Text.contains (Text.lower n))) = true ↔ Hints n := by
  rw [List.any_eq_true]
  exact exists_congr fun hint => and_congr_right fun _ => Text.cutAt?_isSome

theorem mem_starts_iff : n ∈ starts names ↔ IsStart names n := by
  unfold starts IsStart
  simp only [← hints_iff]
  split
  · next hempty =>
    rw [List.isEmpty_iff, List.filter_eq_nil_iff] at hempty
    rw [or_iff_right fun h => hempty n h.1 h.2, and_iff_right hempty]
    cases names with
    | nil => exact iff_of_false List.not_mem_nil nofun
    | cons m rest => exact List.mem_singleton.trans (eq_comm.trans Option.some_inj.symm)
  · next hsome =>
    rw [List.isEmpty_iff, List.filter_eq_nil_iff] at hsome
    rw [List.mem_filter]
    refine ⟨Or.inl, fun h => h.resolve_right fun h => hsome h.1⟩

theorem isReached_iff : Reaches (links (Entries.ofTexts scenes)) (starts (scenes.map Prod.fst)) n ↔
    IsReached scenes n := by
  have hlinks : (fun a b => b ∈ links (Entries.ofTexts scenes) a) = LeadsTo scenes :=
    funext₂ fun _ _ => propext mem_links_iff
  unfold Reaches IsReached
  simp only [mem_starts_iff, hlinks]

theorem mem_of_isStart (h : IsStart names n) : n ∈ names := by
  rcases h with ⟨h, -⟩ | ⟨-, h⟩
  · exact h
  · exact List.mem_of_head? h

/-- The reachable scenes are those to which a path of defined references leads. -/
theorem mem_reachable_iff : n ∈ reachable (Entries.ofTexts scenes) ↔ IsReached scenes n := by
  unfold reachable
  rw [names_ofTexts, ← isReached_iff]
  apply Reach.mem_gather_iff
  · exact fun s hs => List.mem_eraseDups.mpr (mem_of_isStart (mem_starts_iff.mp hs))
  · exact fun a _ b hb => List.mem_eraseDups.mpr (mem_links_iff.mp hb).2

/-- The search through the scenes, each going on with the defined scenes that it refers to in
ascending order, ends, whatever cycles there are, and has then reached the reachable scenes. -/
theorem exists_search (scenes : List (String × Value)) :
    ∃ s, Search.EndsIn (fun a => sortedOnce (links (Entries.ofTexts scenes) a))
        ⟨starts (scenes.map Prod.fst), []⟩ s ∧ ∀ n, n ∈ s.reached ↔ IsReached scenes n := by
  have hlinks : ∀ a ∈ scenes.map Prod.fst, ∀ b ∈ sortedOnce (links (Entries.ofTexts scenes) a),
      b ∈ scenes.map Prod.fst :=
    fun a _ b hb => (mem_links_iff.mp (mem_sortedOnce.mp hb)).2
  obtain ⟨s, hs⟩ := Search.exists_endsIn hlinks ⟨starts (scenes.map Prod.fst), []⟩
    fun a ha => mem_of_isStart (mem_starts_iff.mp ha)
  refine ⟨s, hs, fun n => ?_⟩
  rw [Search.mem_reached_iff hs, ← isReached_iff]
  exact Reaches.congr (fun _ _ => mem_sortedOnce) fun _ => Iff.rfl

end Check
end Storybind

/-! ### Targets and the names of scenes -/

namespace Storybind.Check

open Instruction (SceneRefers)

variable {es : Entries} {t : String}

theorem undefinedIssue_injective {t u : String} (h : undefinedIssue t = undefinedIssue u) :
    t = u := by
  have hmessage : "Scene '" ++ t ++ "' is referenced but not defined" =
      "Scene '" ++ u ++ "' is referenced but not defined" := congrArg Issue.message h
  rw [String.append_left_inj, String.append_right_inj] at hmessage
  exact hmessage

/-- A target is reported exactly if it is no text among the keys. -/
theorem undefinedIssue_mem_iff (ht : ∃ e ∈ es, SceneRefers e.2 t) :
    undefinedIssue t ∈ (references es).issues ↔ ¬∃ e ∈ es, e.1 = .text t := by
  rw [← Entries.has_text, Bool.not_eq_true, ← Bool.not_eq_true', issues_references, List.mem_map]
  constructor
  · rintro ⟨u, hu, heq⟩
    obtain rfl := undefinedIssue_injective heq
    exact (List.mem_filter.mp hu).2
  · exact fun hnone => ⟨t, List.mem_filter.mpr ⟨mem_allTargets.mpr ht, hnone⟩, rfl⟩

theorem exists_scene_iff : (∃ scene ∈ Scene.ofEntries es, scene.name = t) ↔
    ∃ e ∈ es, e.1.display = t := by
  simp only [Scene.ofEntries, List.mem_map, exists_exists_and_eq_and]

theorem exists_scene_of_text (h : ∃ e ∈ es, e.1 = .text t) :
    ∃ scene ∈ Scene.ofEntries es, scene.name = t := by
  obtain ⟨e, he, hkey⟩ := h
  refine exists_scene_iff.mpr ⟨e, he, ?_⟩
  rw [hkey]
  exact String.ofList_toList

/-- A target is reported exactly if no scene stands under it as a text. So one that is no scene's
name is reported, and the report about one that is a scene's name is right exactly if a scene stands
under the text itself. -/
theorem reported_iff_of_refers (ht : ∃ e ∈ es, SceneRefers e.2 t) :
    (undefinedIssue t ∈ (references es).issues ↔ ¬∃ e ∈ es, e.1 = .text t) ∧
    ((¬∃ scene ∈ Scene.ofEntries es, scene.name = t) → undefinedIssue t ∈ (references es).issues) ∧
    ((undefinedIssue t ∈ (references es).issues ↔ ¬∃ scene ∈ Scene.ofEntries es, scene.name = t) ↔
      ((∃ scene ∈ Scene.ofEntries es, scene.name = t) → ∃ e ∈ es, e.1 = .text t)) := by
  have hreported := undefinedIssue_mem_iff ht
  have hscene : (∃ e ∈ es, e.1 = .text t) → ∃ scene ∈ Scene.ofEntries es, scene.name = t :=
    exists_scene_of_text
  refine ⟨hreported, fun hnone => hreported.mpr (mt hscene hnone), ?_⟩
  rw [hreported, not_iff_not]
  exact ⟨fun h => h.mpr, fun h => ⟨hscene, h⟩⟩

/-- A scene under a number that refers to itself by the text of the number. -/
def numbered : Entries := [(.int 1, .ofList [.record [("goto", .text "1")]])]

theorem refers_numbered : ∃ e ∈ numbered, SceneRefers e.2 "1" :=
  ⟨_, List.mem_cons_self, 0, _, rfl, _, List.mem_cons_self, .field (Or.inl rfl) rfl⟩

theorem no_text_numbered : ¬∃ e ∈ numbered, e.1 = .text "1" := by
  rintro ⟨e, he, hkey⟩
  obtain rfl := List.mem_singleton.mp he
  cases hkey

theorem reported_iff_of_refers_numbered :
    (∃ e ∈ numbered, SceneRefers e.2 "1") ∧ (¬∃ e ∈ numbered, e.1 = .text "1") ∧
      undefinedIssue "1" ∈ (references numbered).issues :=
  ⟨refers_numbered, no_text_numbered,
    (reported_iff_of_refers refers_numbered).1.mpr no_text_numbered⟩

/-- A target that a scene has for its name can be reported as not defined. -/
theorem not_undefined_numbered :
    ¬∀ (es : Entries) (t : String), (∃ e ∈ es, SceneRefers e.2 t) →
      (undefinedIssue t ∈ (references es).issues ↔
        ¬∃ scene ∈ Scene.ofEntries es, scene.name = t) := by
  intro h
  have hreported : undefinedIssue "1" ∈ (references numbered).issues :=
    (undefinedIssue_mem_iff refers_numbered).mpr no_text_numbered
  have hscene : ∃ scene ∈ Scene.ofEntries numbered, scene.name = "1" :=
    exists_scene_iff.mpr ⟨_, List.mem_cons_self, by decide⟩
  exact (h numbered "1" refers_numbered).mp hreported hscene

end Storybind.Check
