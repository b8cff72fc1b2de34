import Mathlib.Tactic
import Storybind.Proofs.Script.Obstacles
import Storybind.Proofs.Text.Naming

/-!
Names of scenes. A report warns about the name of a scene exactly if that is no letter with letters,
digits and underscores behind it, where one line break at its end makes no difference. No other part
of the check gives such a warning.
-/

namespace Storybind.Check

open Report (issue warning)

variable {name m : String}

/-! ### The check of a name -/

/-- The characters that the name of a scene should be made of. -/
def sceneNaming : Text.Naming where
  first := Text.IsLetter
  others c := Text.IsLetterOrDigit c ∨ c = '_'
  first_break := Text.not_isLetter_break
  others_break := by decide

theorem isPlainName_eq (name : String) : isPlainName name =
    Text.readsName Text.isAsciiLetter (fun c => Text.isAsciiAlnum c || c = '_') name := by
  rw [isPlainName, Text.readsName]
  cases name.toList with
  | nil => rfl
  | cons c cs =>
    by_cases hbreak : cs = [] ∧ c = '\n'
    · obtain ⟨rfl, rfl⟩ := hbreak
      rfl
    · dsimp only
      rw [Text.withoutBreak_cons (not_and.mp hbreak)]
      rfl

theorem isPlainName_iff : isPlainName name = true ↔ sceneNaming.FitsLine name := by
  have hothers (c : Char) : (Text.isAsciiAlnum c || c = '_') = true ↔ sceneNaming.others c := by
    rw [Bool.or_eq_true, decide_eq_true_eq, Text.isAsciiAlnum_iff, sceneNaming]
  rw [isPlainName_eq]
  exact Text.Naming.readsName_iff (fun _ => Text.isAsciiLetter_iff) hothers

/-- The warning about the name of a scene. -/
def nameWarning (name : String) : String :=
  "Scene name '" ++ name ++ "' may cause issues (use only letters, numbers, underscores)"

theorem nameWarning_injective {a b : String} (h : nameWarning a = nameWarning b) : a = b := by
  rw [nameWarning, nameWarning, String.append_left_inj, String.append_right_inj] at h
  exact h

/-- The warning about a long name is another one. -/
theorem nameWarning_ne (a b count : String) :
    nameWarning a ≠ "Scene name '" ++ b ++ "' is very long (" ++ count ++ " characters)" := by
  intro h
  -- the two do not end alike
  have hplain : "' may cause issues (use only letters, numbers, underscores)".toList <:+
      (nameWarning a).toList := ⟨_, String.toList_append.symm⟩
  have hlong : " characters)".toList <:+ (nameWarning a).toList :=
    h ▸ ⟨_, String.toList_append.symm⟩
  rcases List.suffix_or_suffix_of_suffix hplain hlong with hsuffix | hsuffix
  · exact absurd hsuffix (by decide)
  · exact absurd hsuffix (by decide)

/-- The check of a name gives the warning about it exactly if it does not fit. -/
theorem nameWarning_mem_sceneName (a b : String) :
    nameWarning a ∈ (sceneName b).warnings ↔ a = b ∧ ¬sceneNaming.FitsLine b := by
  have hplain : nameWarning a ∈ (if isPlainName b then Report.empty
      else warning (nameWarning b)).warnings ↔ a = b ∧ ¬sceneNaming.FitsLine b := by
    rw [← isPlainName_iff]
    cases isPlainName b with
    | true => exact iff_of_false List.not_mem_nil (fun h => h.2 rfl)
    | false =>
      have hmem : nameWarning a ∈ [nameWarning b] ↔ a = b := by
        rw [List.mem_singleton]
        exact ⟨nameWarning_injective, congrArg nameWarning⟩
      exact hmem.trans (iff_self_and.mpr fun _ => Bool.false_ne_true)
  have hlong : nameWarning a ∉ (if longName < b.length then
      warning ("Scene name '" ++ b ++ "' is very long (" ++ toString b.length ++ " characters)")
      else .empty : Report).warnings := by
    split
    · exact fun h => nameWarning_ne a b _ (List.mem_singleton.mp h)
    · exact List.not_mem_nil
  have hreserved : (if reservedNames.contains b then
      issue .reference none ("Scene name '" ++ b ++ "' is reserved and cannot be used")
        ("Rename scene '" ++ b ++ "' to something else")
      else .empty : Report).warnings = [] := by
    split <;> rfl
  have hparts : (sceneName b).warnings = _ ++ _ ++ _ := rfl
  rw [hparts, hreserved, List.append_nil, List.mem_append, or_iff_left hlong]
  exact hplain

/-! ### Messages that begin otherwise -/

/-- What the messages about the name of a scene begin with. -/
def opening : List Char := "Scene name '".toList

/-- Whether a message begins otherwise, and is not too short to tell. -/
def Elsewhere (m : String) : Prop := ¬m.toList <+: opening ∧ ¬opening <+: m.toList

instance (m : String) : Decidable (Elsewhere m) :=
  inferInstanceAs (Decidable (¬m.toList <+: opening ∧ ¬opening <+: m.toList))

theorem Elsewhere.append (h : Elsewhere m) (t : String) : Elsewhere (m ++ t) := by
  obtain ⟨hshort, hother⟩ := h
  rw [Elsewhere, String.toList_append]
  have hstart : m.toList <+: m.toList ++ t.toList := List.prefix_append _ _
  exact ⟨fun h => hshort (hstart.trans h),
    fun h => (List.prefix_or_prefix_of_prefix h hstart).elim hother hshort⟩

theorem Elsewhere.ne (h : Elsewhere m) (name : String) : m ≠ nameWarning name := by
  rintro rfl
  refine h.2 ?_
  rw [nameWarning, String.toList_append, String.toList_append, List.append_assoc]
  exact List.prefix_append _ _

/-- Whether all warnings of a report begin otherwise. -/
def Spared (r : Report) : Prop := ∀ m ∈ r.warnings, Elsewhere m

variable {r s : Report}

theorem spared_empty : Spared .empty := nofun

theorem spared_issue {kind : IssueKind} {location : Option Location} {message suggestion : String} :
    Spared (issue kind location message suggestion) := nofun

theorem spared_warning (h : Elsewhere m) : Spared (warning m) := List.forall_mem_singleton.mpr h

theorem Spared.append (hr : Spared r) (hs : Spared s) : Spared (r ++ s) :=
  List.forall_mem_append.mpr ⟨hr, hs⟩

theorem spared_ite {p : Prop} [Decidable p] (hr : Spared r) (hs : Spared s) :
    Spared (if p then r else s) := by
  split
  · exact hr
  · exact hs

theorem spared_concat {rs : List Report} (h : ∀ r ∈ rs, Spared r) : Spared (.concat rs) := by
  rw [Spared, Report.warnings_concat]
  rintro m hm
  obtain ⟨r, hr, hm⟩ := List.mem_flatMap.mp hm
  exact h r hr m hm

theorem spared_concat_map {α : Type} {f : α → Report} {items : List α} (h : ∀ a, Spared (f a)) :
    Spared (.concat (items.map f)) := by
  refine spared_concat fun r hr => ?_
  obtain ⟨a, -, rfl⟩ := List.mem_map.mp hr
  exact h a

/-! ### The other parts of the check -/

theorem spared_asset (index : Nat) (v : Value) : Spared (asset index v) := by
  cases v with
  | mapping label entries =>
    simp only [asset]
    refine .append (.append ?_ ?_) ?_
    · split
      · exact spared_empty
      · exact spared_issue
    · split
      · exact spared_empty
      · exact spared_issue
    · split
      · exact spared_issue
      · split
        · exact spared_empty
        · exact spared_warning (.append (.append (.append (.append (by decide) _) _) _) _)
  | _ => exact spared_issue

theorem spared_structure (v : Value) : Spared (structure_ v) := by
  cases v with
  | mapping label entries =>
    have hheading : Spared (heading entries) := by
      simp only [heading]
      refine .append ?_ ?_
      · split
        · exact spared_warning (by decide)
        · exact spared_empty
        · exact spared_issue
      · split
        · exact spared_warning (by decide)
        · exact spared_empty
        · exact spared_warning (by decide)
    have hscenes : Spared (scenesSection entries) := by
      unfold scenesSection
      split
      · exact spared_issue
      · exact spared_issue
      · exact spared_empty
      · exact spared_issue
    have hsections : Spared (sections entries) := by
      simp only [sections]
      refine .append (.append (spared_ite spared_issue spared_empty)
        (spared_ite spared_issue spared_empty)) ?_
      split
      · exact spared_empty
      · exact spared_concat_map fun a => spared_asset a.2 a.1
      · exact spared_issue
    exact .append (.append hscenes hheading) hsections
  | _ => exact spared_issue

theorem spared_choices (scene : String) (location : Location) (v : Value) :
    Spared (choices scene location v) := by
  have hchoice (number : Nat) (v : Value) : Spared (choice scene location number v) := by
    simp only [choice]
    split
    · exact spared_issue
    · refine spared_ite ?_ spared_empty
      exact spared_warning (.append (.append (.append (.append (by decide) _) _) _) _)
    · exact spared_empty
  cases v with
  | list label items =>
    simp only [choices]
    split
    · exact spared_warning (.append (.append (.append (by decide) _) _) _)
    · refine .append (spared_ite ?_ spared_empty)
        (spared_concat_map fun a => hchoice (a.2 + 1) a.1)
      exact spared_warning (.append (.append (.append (.append (by decide) _) _) _) _)
  | _ => exact spared_issue

theorem spared_actionOf (scene type : String) (location : Location) (entries : Entries) :
    Spared (actionOf scene type location entries) := by
  simp only [actionOf]
  split
  · next hset =>
    have htype : Elsewhere type := by
      rcases (by simpa using hset : type = "setVar" ∨ type = "addVar") with rfl | rfl <;> decide
    exact .append (spared_ite spared_empty spared_issue)
      (spared_ite spared_empty (spared_warning (.append (.append (.append htype _) _) _)))
  · exact spared_ite (spared_ite spared_empty spared_issue)
      (spared_ite (spared_ite spared_empty spared_issue) (spared_ite spared_empty spared_issue))

theorem spared_actions (scene : String) (location : Location) (v : Value) :
    Spared (actions scene location v) := by
  have haction (v : Value) : Spared (action scene location v) := by
    simp only [action]
    split
    · exact spared_issue
    · exact spared_ite (spared_actionOf _ _ _ _) spared_issue
  cases v with
  | list label items => exact spared_concat_map haction
  | _ => exact spared_issue

theorem spared_condition (scene : String) (location : Location) (v : Value) :
    Spared (condition scene location v) := by
  unfold condition
  split
  · exact spared_ite spared_issue
      (spared_ite (spared_warning (.append (.append (by decide) _) _)) spared_empty)
  · exact spared_issue

theorem spared_ownInstruction (scene : String) (location : Location) (entries : Entries) :
    Spared (ownInstruction scene location entries) := by
  simp only [ownInstruction]
  refine .append (.append ?_ ?_) ?_
  · split
    · exact spared_choices _ _ _
    · exact spared_empty
  · split
    · exact spared_actions _ _ _
    · exact spared_empty
  · split
    · exact spared_condition _ _ _
    · exact spared_empty

mutual

theorem spared_instruction (scene : String) (line : Nat) : (v : Value) →
    Spared (instruction scene line v)
  | .mapping _ entries =>
    .append (.append (spared_ownInstruction _ _ _) (spared_branch scene line "then" entries))
      (spared_branch scene line "else" entries)
  | .scalar s => by
    unfold instruction
    split
    · exact spared_ite (spared_warning (.append (.append (.append (by decide) _) _) _)) spared_empty
    · next h => cases h
    · exact spared_issue
  | .list _ _ => spared_issue
  | .set _ _ => spared_issue
  | .pair _ _ => spared_issue
  | .back _ => spared_issue

theorem spared_branch (scene : String) (line : Nat) (name : String) :
    (es : List (Scalar × Value)) → Spared (branch scene line name es)
  | [] => spared_empty
  | (k, v) :: rest => by
    have hrest := spared_branch scene line name rest
    cases v with
    | list label items =>
      rw [branch]
      split
      · exact spared_branchItems scene line items
      · exact hrest
    | _ =>
      simp only [branch]
      split
      · exact spared_empty
      · exact hrest

theorem spared_branchItems (scene : String) (line : Nat) : (items : List Value) →
    Spared (branchItems scene line items)
  | [] => spared_empty
  | v :: rest => .append (spared_instruction scene line v) (spared_branchItems scene line rest)

end

theorem spared_sceneBody (name : String) (v : Value) : Spared (sceneBody name v) := by
  cases v with
  | list label items =>
    rw [sceneBody]
    split
    · exact spared_warning (.append (.append (by decide) _) _)
    · exact spared_concat_map fun a => spared_instruction name (a.2 + 1) a.1
  | _ => exact spared_issue

theorem spared_references (es : Entries) : Spared (references es) := by
  rw [Spared, warnings_references]
  intro m hm
  obtain ⟨name, -, rfl⟩ := List.mem_map.mp hm
  exact .append (.append (by decide) _) _

theorem spared_inputHelpers (es : Entries) : Spared (inputHelpers es) := by
  have hhelper (p : Passage) (h : InputHelper) : Spared (inputHelper p h) := by
    simp only [inputHelper]
    refine .append (.append (spared_ite spared_empty spared_issue)
      (spared_ite spared_empty spared_issue)) (spared_ite ?_ spared_empty)
    exact spared_warning (.append (.append (.append (.append (by decide) _) _) _) _)
  refine spared_concat fun r hr => ?_
  obtain ⟨p, -, hr⟩ := List.mem_flatMap.mp hr
  obtain ⟨h, -, rfl⟩ := List.mem_map.mp hr
  exact hhelper p h

theorem spared_assetReferences (es : Entries) : Spared (assetReferences es) := by
  simp only [assetReferences]
  exact spared_ite spared_empty (spared_warning (.append (.append (by decide) _) _))

variable {w : Workspace} {places : Lookup} {script : Option Path} {c c' : ComponentCheck}

theorem spared_componentFile {component requested : String} (hc : Spared c.report)
    (h : componentFile w places component c requested = .ok c') : Spared c'.report := by
  unfold componentFile at h
  split at h
  · cases h
    exact hc
  · split at h
    · cases h
    · cases h
      exact hc
    · cases h
      refine hc.append (spared_warning ?_)
      exact .append (.append (.append (.append (by decide) _) _) _) _

theorem spared_directive {found : Passage × DirectiveToken} (hc : Spared c.report)
    (h : directive w places c found = .ok c') : Spared c'.report := by
  obtain ⟨p, token⟩ := found
  cases token with
  | malformed text position =>
    cases h
    exact hc.append spared_issue
  | directive d =>
    have hstep (c : ComponentCheck) (requested : String) (c' : ComponentCheck)
        (hc : Spared c.report) (h : componentFile w places d.component c requested = .ok c') :
        Spared c'.report := spared_componentFile hc h
    exact Except.foldlM_keeps hstep hc h

theorem spared_components {es : Entries} (h : components w places es = .ok r) : Spared r := by
  obtain ⟨c, hfold, rfl⟩ := Except.map_eq_ok.mp h
  have hstep (c : ComponentCheck) (found : Passage × DirectiveToken) (c' : ComponentCheck)
      (hc : Spared c.report) (h : directive w places c found = .ok c') : Spared c'.report :=
    spared_directive hc h
  exact Except.foldlM_keeps hstep spared_empty hfold

/-! ### The whole check -/

theorem nameWarning_mem_scenes {es : Entries} : nameWarning name ∈ (scenes es).warnings ↔
    (∃ e ∈ es, e.1.display = name) ∧ ¬sceneNaming.FitsLine name := by
  have hbodies : Spared (.concat (es.map fun e => sceneBody e.1.display e.2)) :=
    spared_concat_map fun e => spared_sceneBody e.1.display e.2
  have hnames : nameWarning name ∈ (Report.concat (es.map fun e => sceneName e.1.display)).warnings ↔
      (∃ e ∈ es, e.1.display = name) ∧ ¬sceneNaming.FitsLine name := by
    rw [Report.warnings_concat, List.flatMap_map, List.mem_flatMap]
    simp only [nameWarning_mem_sceneName]
    constructor
    · rintro ⟨e, he, rfl, hfits⟩
      exact ⟨⟨e, he, rfl⟩, hfits⟩
    · rintro ⟨⟨e, he, rfl⟩, hfits⟩
      exact ⟨e, he, rfl, hfits⟩
  rw [← hnames, scenes]
  split
  · next hempty =>
    obtain rfl := List.isEmpty_iff.mp hempty
    exact iff_of_false List.not_mem_nil List.not_mem_nil
  · refine List.mem_append.trans (or_iff_left fun h => ?_)
    exact (hbodies _ h).ne name rfl

/-- The scenes in a text, whatever their contents, if it is a mapping that has a mapping for them. -/
def scenesIn? (content : String) : Option Entries :=
  match Yaml.load content with
  | .ok (.mapping _ entries) =>
    match Entries.get? "scenes" entries with
    | some (.mapping _ scenes) => some scenes
    | _ => none
  | _ => none

theorem exists_of_scenesIn {content : String} {es : Entries} (h : scenesIn? content = some es) :
    ∃ label entries place, Yaml.load content = .ok (.mapping label entries) ∧
      Entries.get? "scenes" entries = some (.mapping place es) := by
  unfold scenesIn? at h
  split at h
  · next label entries hload =>
    split at h
    · next place scenes hscenes =>
      cases h
      exact ⟨label, entries, place, hload, hscenes⟩
    · cases h
  · cases h

/-- A report on a text warns about a name exactly if a scene has it and it does not fit. -/
theorem nameWarning_mem_text {content : String} {es : Entries} (hes : scenesIn? content = some es)
    (h : text w script content = .ok r) : nameWarning name ∈ r.warnings ↔
      (∃ e ∈ es, e.1.display = name) ∧ ¬sceneNaming.FitsLine name := by
  obtain ⟨label, entries, place, hload, hscenes⟩ := exists_of_scenesIn hes
  have hvalue : value w script (.mapping label entries) = .ok r := by
    rw [text, hload] at h
    exact loaded_eq_ok h
  rw [value, hscenes] at hvalue
  obtain ⟨places, -, hvalue⟩ := Except.bind_eq_ok.mp hvalue
  obtain ⟨mounted, hmounted, hvalue⟩ := Except.bind_eq_ok.mp hvalue
  obtain rfl := Except.ok.inj hvalue
  rw [← nameWarning_mem_scenes]
  -- only the part about the scenes can hold it
  have helsewhere {r : Report} (hr : Spared r) : nameWarning name ∉ r.warnings := fun h =>
    (hr _ h).ne name rfl
  have hassets : Spared (if isPresent "assets" entries then assetReferences es else .empty) :=
    spared_ite (spared_assetReferences es) spared_empty
  have hparts {a b : Report} : nameWarning name ∈ (a ++ b).warnings ↔
      nameWarning name ∈ a.warnings ∨ nameWarning name ∈ b.warnings := List.mem_append
  rw [hparts, hparts, hparts, hparts, hparts, or_iff_left (helsewhere hassets),
    or_iff_left (helsewhere (spared_components hmounted)),
    or_iff_left (helsewhere (spared_inputHelpers es)), or_iff_left (helsewhere (spared_references es)),
    or_iff_right (helsewhere (spared_structure _))]

end Storybind.Check
