import Mathlib.Tactic
import Storybind.Proofs.Dependency.Package
import Storybind.Settings

/-!
The libraries of a script, entry by entry. What an entry gives does not depend on the others: it
gives its declarations, or one warning, or it breaks off and nothing after it is looked at. The
sections give what their entries give by themselves, one after another.
-/

namespace Storybind.Declared

variable {presets : Presets} {pattern : String} {v : Value} {d : Declared}

/-- The declarations and the warnings of both. -/
def plus (a b : Declared) : Declared :=
  ⟨a.declarations ++ b.declarations, a.warnings ++ b.warnings⟩

@[simp] theorem plus_empty (d : Declared) : d.plus empty = d := by simp [plus, empty]

@[simp] theorem empty_plus (d : Declared) : empty.plus d = d := rfl

theorem plus_assoc (a b c : Declared) : (a.plus b).plus c = a.plus (b.plus c) := by
  simp [plus, List.append_assoc]

/-- What an entry gives by itself: declarations, or one warning, or nothing as it breaks off. -/
inductive Single : Declared × Option EntryError → Prop
  | declares (ds : List Declaration) : Single (⟨ds, []⟩, none)
  | warns (message : String) : Single (⟨[], [message]⟩, none)
  | breaks (e : EntryError) : Single (empty, some e)

/-! ### One entry -/

/-- A step of which every entry gives what it gives by itself. -/
structure Itemwise (step : Value → Declared → Declared × Option EntryError) : Prop where
  single : ∀ v, Single (step v empty)
  alone : ∀ v d, step v d = (d.plus (step v empty).1, (step v empty).2)

section

variable {name : Except EntryError String} {about : String}
  {given : Except EntryError (List Declaration)} {e : EntryError}

theorem take_of_complaint (he : e.isComplaint = true) : d.take name about (.error e) =
    match name with
    | .ok name => (d.warn (about ++ " '" ++ name ++ "': " ++ e.message), none)
    | .error e => (d, some e) :=
  if_pos he

theorem take_of_not_complaint (he : e.isComplaint = false) :
    d.take name about (.error e) = (d, some e) :=
  if_neg (Bool.eq_false_iff.mp he)

theorem single_take : Single (empty.take name about given) := by
  cases given with
  | ok ds => exact .declares ds
  | error e =>
    cases he : e.isComplaint with
    | false =>
      rw [take_of_not_complaint he]
      exact .breaks e
    | true =>
      rw [take_of_complaint he]
      cases name with
      | ok name => exact .warns _
      | error e => exact .breaks e

theorem take_alone : d.take name about given =
    (d.plus (empty.take name about given).1, (empty.take name about given).2) := by
  cases given with
  | ok ds => simp [take, plus, empty]
  | error e =>
    cases he : e.isComplaint with
    | false => rw [take_of_not_complaint he, take_of_not_complaint he, plus_empty]
    | true =>
      rw [take_of_complaint he, take_of_complaint he]
      cases name <;> simp [plus, empty, warn]

end

theorem itemwise_entry (presets : Presets) (pattern : String) :
    Itemwise (entry presets pattern) := by
  constructor
  · intro v
    unfold entry
    split
    · exact single_take
    · exact single_take
    · split
      · exact .breaks .overlong
      · exact .warns _
  · intro v d
    unfold entry
    split
    · exact take_alone
    · exact take_alone
    · split
      · simp
      · simp [plus, empty, warn]

theorem itemwise_quickEntry (presets : Presets) (pattern : String) :
    Itemwise (quickEntry presets pattern) := by
  constructor
  · intro v
    unfold quickEntry
    split
    · exact single_take
    · exact .warns _
  · intro v d
    unfold quickEntry
    split
    · exact take_alone
    · simp [plus, empty, warn]

/-! ### One after another -/

/-- What parts give one after another, up to the first that breaks off. -/
def gather (parts : List (Declared × Option EntryError)) : Declared × Option EntryError :=
  let whole := parts.takeWhile fun part => part.2.isNone
  (⟨whole.flatMap fun part => part.1.declarations, whole.flatMap fun part => part.1.warnings⟩,
    parts.findSome? fun part => part.2)

variable {ps ps' : List (Declared × Option EntryError)}

theorem gather_nil : gather [] = (empty, none) := rfl

theorem gather_cons_none :
    gather ((d, none) :: ps) = (d.plus (gather ps).1, (gather ps).2) := by
  simp [gather, plus]

theorem gather_cons_some {e : EntryError} : gather ((d, some e) :: ps) = (empty, some e) := by
  simp [gather, empty]

theorem gather_append_of_none (h : (gather ps).2 = none) : gather (ps ++ ps') =
    ((gather ps).1.plus (gather ps').1, (gather ps').2) := by
  induction ps with
  | nil => rfl
  | cons part rest ih =>
    obtain ⟨d, _ | e⟩ := part
    · rw [gather_cons_none] at h
      rw [List.cons_append, gather_cons_none, gather_cons_none, ih h, plus_assoc]
    · rw [gather_cons_some] at h
      cases h

theorem gather_append_of_some {e : EntryError} (h : (gather ps).2 = some e) :
    gather (ps ++ ps') = gather ps := by
  induction ps with
  | nil => cases h
  | cons part rest ih =>
    obtain ⟨d, _ | e'⟩ := part
    · rw [gather_cons_none] at h
      rw [List.cons_append, gather_cons_none, gather_cons_none, ih h]
    · rw [List.cons_append, gather_cons_some, gather_cons_some]

/-- Where nothing breaks off, all of the parts are there. -/
theorem gather_of_forall (h : ∀ part ∈ ps, part.2 = none) :
    gather ps = (⟨ps.flatMap fun part => part.1.declarations,
      ps.flatMap fun part => part.1.warnings⟩, none) := by
  have hwhole : (ps.takeWhile fun part => part.2.isNone) = ps :=
    List.takeWhile_eq_self_iff.mpr fun part hpart => by rw [h part hpart]; rfl
  have hnone : (ps.findSome? fun part => part.2) = none := List.findSome?_eq_none_iff.mpr h
  rw [gather, hwhole, hnone]

/-- Taking in entries one after another gives what they give by themselves. -/
theorem Itemwise.entries {step : Value → Declared → Declared × Option EntryError}
    (h : Itemwise step) (items : List Value) (d : Declared) :
    entries step items d = (d.plus (gather (items.map (step · empty))).1,
      (gather (items.map (step · empty))).2) := by
  induction items generalizing d with
  | nil => rw [Declared.entries, List.map_nil, gather_nil, plus_empty]
  | cons v rest ih =>
    have halone := h.alone v d
    rw [Declared.entries, List.map_cons]
    -- a step that breaks off leaves what there was
    cases hstep : step v empty with
    | mk given problem =>
      rw [hstep] at halone
      cases problem with
      | none =>
        rw [halone, gather_cons_none, ← plus_assoc]
        exact ih (d.plus given)
      | some e =>
        have hsingle := h.single v
        rw [hstep] at hsingle
        cases hsingle
        rw [halone, gather_cons_some]

/-! ### Sections -/

/-- What the entries of a section give by themselves; anything but a list gives a warning. -/
def given (title : String) (step : Value → Declared → Declared × Option EntryError) :
    Value → List (Declared × Option EntryError)
  | .null => []
  | .list _ items => items.map (step · empty)
  | _ => [(empty.warn ("Script '" ++ title ++ "' must be a list; ignoring it"), none)]

section

variable {step : Value → Declared → Declared × Option EntryError} {title : String}

theorem given_of_other (hnull : v ≠ .null) (hlist : ∀ label items, v ≠ .list label items) :
    given title step v =
      [(empty.warn ("Script '" ++ title ++ "' must be a list; ignoring it"), none)] := by
  unfold given
  split
  · exact absurd rfl hnull
  · exact absurd rfl (hlist _ _)
  · rfl

theorem Itemwise.section_ (h : Itemwise step) (title : String) (v : Value) (d : Declared) :
    Declared.entries step (section_ title v d).1 (section_ title v d).2 =
      (d.plus (gather (given title step v)).1, (gather (given title step v)).2) := by
  unfold Declared.section_
  split
  · rw [Declared.entries, given, gather_nil, plus_empty]
  · exact h.entries _ d
  · next hnull hlist =>
    rw [given_of_other hnull hlist, gather_cons_none, gather_nil, plus_empty]
    simp [Declared.entries, plus, empty, warn]

end

/-- A script gives what its entries give by themselves, those in short first. -/
theorem ofScript_eq (dependencies quick : Value) : ofScript presets pattern dependencies quick =
    gather (given "dependencies_quick" (quickEntry presets pattern) quick ++
      given "dependencies" (entry presets pattern) dependencies) := by
  have hquick := (itemwise_quickEntry presets pattern).section_ "dependencies_quick" quick empty
  have hrest := (itemwise_entry presets pattern).section_ "dependencies" dependencies
  rw [empty_plus] at hquick
  unfold ofScript
  simp only [hquick]
  cases hgather : (gather (given "dependencies_quick" (quickEntry presets pattern) quick)).2 with
  | none =>
    rw [gather_append_of_none hgather]
    exact hrest _
  | some e =>
    rw [gather_append_of_some hgather]
    exact Prod.ext rfl hgather.symm

theorem isSome_gather : (gather ps).2.isSome ↔ ∃ part ∈ ps, part.2.isSome := by
  rw [gather, List.findSome?_isSome_iff]

/-! ### Entries that break off -/

/-- Which entries break off, and with which error: an entry in short whose package does not fit into
the address of packages; a declaration without a format whose address counts as present but is no
text; a mapping that is refused but has no name that could be told; and a value that is nothing of
this and cannot be told either. -/
inductive Breaks (presets : Presets) (pattern : String) : Value → EntryError → Prop
  | unfit {s : String} {slot : Slots.SlotError} (hnames : Shorthand.NamesPackage (Text.trim s))
      (hfill : Slots.fill [("package", Shorthand.packageNamed s)] pattern = .error slot)
      (hslot : (EntryError.slot slot).isComplaint = false) :
      Breaks presets pattern (.text s) (.slot slot)
  | unread {label : Nat} {es : Entries} {type : String} {e : FormError}
      (htype : shownOr "" (Entries.get? "type" es) = .ok type) (hkind : Text.lower type ≠ "preset")
      (hformat : Declaration.FormatUnknown es e) :
      Breaks presets pattern (.mapping label es) (.form e)
  | unnamed {label : Nat} {es : Entries} {complaint e : EntryError}
      (hrefused : ofMapping presets es = .error complaint)
      (hcomplaint : complaint.isComplaint = true)
      (hname : shownOr "?" (Entries.get? "name" es) = .error e) :
      Breaks presets pattern (.mapping label es) e
  | untold {v : Value} (htext : ∀ s, v ≠ .text s) (hmapping : ∀ label es, v ≠ .mapping label es)
      (hunwritable : Yaml.holdsUnwritable v = true) : Breaks presets pattern v .overlong

variable {e : EntryError}

theorem take_eq_some {name : Except EntryError String} {about : String}
    {given : Except EntryError (List Declaration)} :
    (d.take name about given).2 = some e ↔ (given = .error e ∧ e.isComplaint = false) ∨
      ∃ complaint, given = .error complaint ∧ complaint.isComplaint = true ∧ name = .error e := by
  cases given with
  | ok ds => simp [take]
  | error e' =>
    cases he : e'.isComplaint with
    | false =>
      rw [take_of_not_complaint he]
      constructor
      · intro h
        cases h
        exact .inl ⟨rfl, he⟩
      · rintro (⟨h, -⟩ | ⟨_, h, hcomplaint, -⟩)
        · cases h
          rfl
        · cases h
          rw [he] at hcomplaint
          cases hcomplaint
    | true =>
      rw [take_of_complaint he]
      cases name with
      | ok name =>
        refine iff_of_false nofun ?_
        rintro (⟨h, hclear⟩ | ⟨_, -, -, h⟩)
        · cases h
          rw [he] at hclear
          cases hclear
        · cases h
      | error e'' =>
        constructor
        · intro h
          cases h
          exact .inr ⟨_, rfl, he, rfl⟩
        · rintro (⟨h, hclear⟩ | ⟨_, -, -, h⟩)
          · cases h
            rw [he] at hclear
            cases hclear
          · cases h
            rfl

theorem shownOr_eq_error {default : String} {v : Option Value} (h : shownOr default v = .error e) :
    e = .overlong := by
  cases v with
  | none => cases h
  | some v =>
    rw [shownOr, shown] at h
    split at h
    · cases h
      rfl
    · cases h

theorem isComplaint_of_ofPreset {name : String}
    (h : Shorthand.ofPreset presets name = .error e) : e.isComplaint = true := by
  unfold Shorthand.ofPreset at h
  split at h
  · cases h
  · cases h
    rfl

theorem expand_refused (he : e.isComplaint = false) {s : String} :
    Shorthand.expand presets pattern s = .error e ↔ Shorthand.one pattern s = .error e := by
  rw [Shorthand.expand]
  constructor
  · intro h
    split at h
    · rw [isComplaint_of_ofPreset h] at he
      cases he
    · rw [← Shorthand.one_trim]
      exact Except.map_eq_error.mp h
  · intro h
    -- what is refused without a complaint names a package, so no preset
    obtain ⟨hnames, -⟩ := (Shorthand.one_refused he).mp h
    rw [if_neg fun hp => hnames.not_preset (Shorthand.startsWith_iff.mp hp), Shorthand.one_trim]
    exact Except.map_eq_error.mpr h

theorem ofMapping_eq (presets : Presets) (es : Entries) : ofMapping presets es =
    (shownOr "" (Entries.get? "type" es)).bind fun type =>
      if Text.lower type = "preset" then
        (shownOr "" ((Value.truthy? "preset" es).or (Value.truthy? "name" es))).bind
          (Shorthand.ofPreset presets)
      else ((Declaration.ofValue (.ofEntries es)).outcome.mapError .form).map ([·]) := rfl

theorem ofMapping_refused (he : e.isComplaint = false) {es : Entries} :
    ofMapping presets es = .error e ↔ ∃ type fe,
      shownOr "" (Entries.get? "type" es) = .ok type ∧ Text.lower type ≠ "preset" ∧
        Declaration.FormatUnknown es fe ∧ e = .form fe := by
  rw [ofMapping_eq]
  constructor
  · intro h
    rcases Except.bind_eq_error.mp h with htype | ⟨type, htype, h⟩
    · rw [shownOr_eq_error htype] at he
      cases he
    · split at h
      · rcases Except.bind_eq_error.mp h with hname | ⟨name, -, hpreset⟩
        · rw [shownOr_eq_error hname] at he
          cases he
        · rw [isComplaint_of_ofPreset hpreset] at he
          cases he
      · next hkind =>
        obtain ⟨fe, hfe, rfl⟩ := Except.mapError_eq_error.mp (Except.map_eq_error.mp h)
        -- flaws would be complained about
        have hflaws : ∀ fs, fe ≠ .flaws fs := by
          rintro fs rfl
          cases he
        exact ⟨type, fe, htype, hkind, Declaration.formatUnknown_iff.mpr ⟨hfe, hflaws⟩, rfl⟩
  · rintro ⟨type, fe, htype, hkind, hformat, rfl⟩
    refine Except.bind_eq_error.mpr (.inr ⟨type, htype, ?_⟩)
    rw [if_neg hkind]
    exact Except.map_eq_error.mpr
      (Except.mapError_eq_error.mpr ⟨fe, (Declaration.formatUnknown_iff.mp hformat).1, rfl⟩)

theorem take_short_eq_some {about s : String} :
    (d.take (.ok s) about (Shorthand.expand presets pattern s)).2 = some e ↔
      Breaks presets pattern (.text s) e := by
  rw [take_eq_some]
  constructor
  · rintro (⟨hgiven, he⟩ | ⟨_, -, -, hname⟩)
    · obtain ⟨hnames, slot, hfill, rfl⟩ := (Shorthand.one_refused he).mp ((expand_refused he).mp hgiven)
      exact .unfit hnames hfill he
    · cases hname
  · intro h
    cases h with
    | unfit hnames hfill hslot =>
      exact .inl ⟨(expand_refused hslot).mpr
        ((Shorthand.one_refused hslot).mpr ⟨hnames, _, hfill, rfl⟩), hslot⟩
    | untold htext => exact absurd rfl (htext s)

/-- What is neither a text nor a mapping breaks off where it cannot be told. -/
theorem breaks_iff (htext : ∀ s, v ≠ .text s) (hmapping : ∀ label es, v ≠ .mapping label es) :
    Breaks presets pattern v e ↔ e = .overlong ∧ Yaml.holdsUnwritable v = true := by
  constructor
  · intro h
    cases h with
    | unfit => exact absurd rfl (htext _)
    | unread => exact absurd rfl (hmapping _ _)
    | unnamed => exact absurd rfl (hmapping _ _)
    | untold _ _ hunwritable => exact ⟨rfl, hunwritable⟩
  · rintro ⟨rfl, hunwritable⟩
    exact .untold htext hmapping hunwritable

/-- Whether and how an entry breaks off. -/
theorem entry_eq_some :
    (entry presets pattern v d).2 = some e ↔ Breaks presets pattern v e := by
  unfold entry
  split
  · exact take_short_eq_some
  · next label es =>
    rw [take_eq_some]
    -- a mapping breaks off as it is read, or where its name is to be told in the warning
    constructor
    · rintro (⟨hgiven, he⟩ | ⟨complaint, hgiven, hcomplaint, hname⟩)
      · obtain ⟨type, fe, htype, hkind, hformat, rfl⟩ := (ofMapping_refused he).mp hgiven
        exact .unread htype hkind hformat
      · exact .unnamed hgiven hcomplaint hname
    · intro h
      cases h with
      | @unread _ _ _ fe htype hkind hformat =>
        have he : (EntryError.form fe).isComplaint = false := by cases hformat <;> rfl
        exact .inl ⟨(ofMapping_refused he).mpr ⟨_, _, htype, hkind, hformat, rfl⟩, he⟩
      | unnamed hrefused hcomplaint hname => exact .inr ⟨_, hrefused, hcomplaint, hname⟩
      | untold htext hmapping => exact absurd rfl (hmapping label es)
  · next htext hmapping =>
    rw [breaks_iff htext hmapping]
    split
    · next hunwritable => simp [hunwritable, eq_comm]
    · next hwritable => simp [hwritable]

theorem quickEntry_eq_some : (quickEntry presets pattern v d).2 = some e ↔
    ∃ s, v = .text s ∧ Breaks presets pattern (.text s) e := by
  unfold quickEntry
  split
  · next s =>
    rw [take_short_eq_some]
    constructor
    · exact fun h => ⟨s, rfl, h⟩
    · rintro ⟨_, hs, h⟩
      cases hs
      exact h
  · next htext => exact iff_of_false nofun fun ⟨s, hs, _⟩ => htext s hs

/-- Every package fits into the usual address of packages. -/
theorem fill_standard (package : String) :
    Slots.fill [("package", package)] Settings.standard.packageAddress =
      .ok ("https://cdn.jsdelivr.net/npm/" ++ package) := by
  have hfill : Slots.fill [("package", package)] Settings.standard.packageAddress =
      .ok (String.ofList ("https://cdn.jsdelivr.net/npm/".toList ++ (package.toList ++ []))) := rfl
  rw [hfill, List.append_nil, String.ofList_append, String.ofList_toList, String.ofList_toList]

theorem not_breaks_text {s : String} :
    ¬Breaks presets Settings.standard.packageAddress (.text s) e := by
  intro h
  cases h with
  | unfit _ hfill =>
    rw [fill_standard] at hfill
    cases hfill
  | untold htext => exact htext s rfl

/-! ### Scripts, entry by entry -/

/-- What the entries of a section give as the only ones, where `alone` is what a section gives;
another value gives what it gives alone, and null gives nothing. -/
def contributions (alone : Value → Declared × Option EntryError) :
    Value → List (Declared × Option EntryError)
  | .null => []
  | .list _ items => items.map fun v => alone (.ofList [v])
  | v => [alone v]

/-- What the entries of a script give as the only ones, those in short first. -/
def scriptParts (presets : Presets) (pattern : String) (dependencies quick : Value) :
    List (Declared × Option EntryError) :=
  contributions (ofScript presets pattern .null) quick ++
    contributions (fun v => ofScript presets pattern v .null) dependencies

theorem gather_single {part : Declared × Option EntryError} (h : Single part) :
    gather [part] = part := by
  cases h with
  | declares ds => rw [gather_cons_none, gather_nil, plus_empty]
  | warns message => rw [gather_cons_none, gather_nil, plus_empty]
  | breaks e => exact gather_cons_some

theorem ofScript_quick (v : Value) : ofScript presets pattern .null v =
    gather (given "dependencies_quick" (quickEntry presets pattern) v) := by
  rw [ofScript_eq, given, List.append_nil]

theorem ofScript_null (v : Value) : ofScript presets pattern v .null =
    gather (given "dependencies" (entry presets pattern) v) := by
  rw [ofScript_eq]
  rfl

section

variable {step : Value → Declared → Declared × Option EntryError} {title : String}

theorem gather_given_single (h : Itemwise step) (v : Value) :
    gather (given title step (.ofList [v])) = step v empty :=
  gather_single (h.single v)

/-- The entries of a section give as the only ones what they give by themselves. -/
theorem contributions_eq (h : Itemwise step) {alone : Value → Declared × Option EntryError}
    (halone : ∀ v, alone v = gather (given title step v)) (v : Value) :
    contributions alone v = given title step v := by
  unfold contributions
  split
  · rfl
  · next items =>
    refine List.map_congr_left fun v _ => ?_
    rw [halone, gather_given_single h]
  · next hnull hlist =>
    rw [halone, given_of_other hnull hlist]
    exact congrArg (fun part => [part]) (gather_single (.warns _))

theorem single_of_mem_given (h : Itemwise step) {part : Declared × Option EntryError}
    (hpart : part ∈ given title step v) : Single part := by
  unfold given at hpart
  split at hpart
  · cases hpart
  · obtain ⟨v, -, rfl⟩ := List.mem_map.mp hpart
    exact h.single v
  · rw [List.mem_singleton.mp hpart]
    exact .warns _

end

theorem scriptParts_eq (dependencies quick : Value) :
    scriptParts presets pattern dependencies quick =
      given "dependencies_quick" (quickEntry presets pattern) quick ++
        given "dependencies" (entry presets pattern) dependencies := by
  rw [scriptParts, contributions_eq (itemwise_quickEntry presets pattern) ofScript_quick,
    contributions_eq (itemwise_entry presets pattern) ofScript_null]

/-- A script gives what its entries give as the only ones, those in short first and up to the first
that breaks off: each gives its declarations without a warning, or one warning and nothing else, or
nothing as it breaks off. A section that is no list gives one warning, and null gives nothing. Which
entries break off depends on the entry alone; with the usual address of packages no text does. -/
theorem ofScript_itemwise (presets : Presets) (pattern : String) (dependencies quick : Value) :
    ofScript presets pattern dependencies quick =
        gather (scriptParts presets pattern dependencies quick) ∧
      (∀ part ∈ scriptParts presets pattern dependencies quick, Single part) ∧
      ((∀ part ∈ scriptParts presets pattern dependencies quick, part.2 = none) →
        ofScript presets pattern dependencies quick =
          (⟨(scriptParts presets pattern dependencies quick).flatMap fun part => part.1.declarations,
            (scriptParts presets pattern dependencies quick).flatMap fun part => part.1.warnings⟩,
            none)) ∧
      (∀ v, v ≠ .null → (∀ label items, v ≠ .list label items) →
        ofScript presets pattern v .null =
            (⟨[], ["Script 'dependencies' must be a list; ignoring it"]⟩, none) ∧
          ofScript presets pattern .null v =
            (⟨[], ["Script 'dependencies_quick' must be a list; ignoring it"]⟩, none)) ∧
      (∀ v e, (ofScript presets pattern (.ofList [v]) .null).2 = some e ↔
        Breaks presets pattern v e) ∧
      (∀ v e, (ofScript presets pattern .null (.ofList [v])).2 = some e ↔
        ∃ s, v = .text s ∧ Breaks presets pattern (.text s) e) ∧
      ∀ s e, ¬Breaks presets Settings.standard.packageAddress (.text s) e := by
  have hgather : ofScript presets pattern dependencies quick =
      gather (scriptParts presets pattern dependencies quick) := by
    rw [scriptParts_eq, ofScript_eq]
  refine ⟨hgather, ?_, ?_, ?_, ?_, ?_, fun s e => not_breaks_text⟩
  · intro part hpart
    rw [scriptParts_eq] at hpart
    rcases List.mem_append.mp hpart with hpart | hpart
    · exact single_of_mem_given (itemwise_quickEntry presets pattern) hpart
    · exact single_of_mem_given (itemwise_entry presets pattern) hpart
  · intro hnone
    rw [hgather, gather_of_forall hnone]
  · intro v hnull hlist
    rw [ofScript_null, ofScript_quick, given_of_other hnull hlist, given_of_other hnull hlist]
    exact ⟨gather_single (.warns _), gather_single (.warns _)⟩
  · intro v e
    rw [ofScript_null, gather_given_single (itemwise_entry presets pattern), entry_eq_some]
  · intro v e
    rw [ofScript_quick, gather_given_single (itemwise_quickEntry presets pattern),
      quickEntry_eq_some]

/-- A list of entries of three shapes, the second of which is complained about. -/
def mixedList : Value :=
  .ofList [.text "kit@1", .int 5, .record [("name", .text "menu"), ("url", .text "/menu.js")]]

theorem ofScript_itemwise_mixed :
    (∀ part ∈ scriptParts [] Settings.standard.packageAddress mixedList .null, part.2 = none) ∧
      (ofScript [] Settings.standard.packageAddress mixedList .null).1.declarations.map (·.name) =
        ["kit", "menu"] ∧
      (ofScript [] Settings.standard.packageAddress mixedList .null).1.warnings =
        ["Unsupported dependency entry: 5"] ∧
      ofScript [] Settings.standard.packageAddress (.text "kit") .null =
        (⟨[], ["Script 'dependencies' must be a list; ignoring it"]⟩, none) := by
  have hitemwise := ofScript_itemwise [] Settings.standard.packageAddress mixedList .null
  have hnone : ∀ part ∈ scriptParts [] Settings.standard.packageAddress mixedList .null,
      part.2 = none := by decide +kernel
  have hall := hitemwise.2.2.1 hnone
  refine ⟨hnone, ?_, ?_, (hitemwise.2.2.2.1 (.text "kit") nofun nofun).1⟩
  · rw [hall]
    decide +kernel
  · rw [hall]
    decide +kernel

/-- A declaration whose address is a number is not complained about. -/
theorem not_complained_address :
    ¬∀ (presets : Presets) (pattern : String) (dependencies quick : Value),
      (ofScript presets pattern dependencies quick).2 = none := by
  intro h
  have hnone := h [] Settings.standard.packageAddress
    (.ofList [.record [("name", .text "x"), ("url", .int 5)]]) .null
  have hbreaks : (ofScript [] Settings.standard.packageAddress
      (.ofList [.record [("name", .text "x"), ("url", .int 5)]]) .null).2 =
      some (.form (.noLetters "int")) := by decide +kernel
  rw [hbreaks] at hnone
  cases hnone

end Storybind.Declared
