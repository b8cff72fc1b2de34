import Mathlib.Tactic
import Storybind.Page.Scripts
import Storybind.Proofs.Page.Template

/-!
Where the scripts of a page go. The script block is made of sections in a fixed order, and what a page
is filled with is told piece by piece; so it can be counted that a script of the player stands at each
of its own slots, or once in the block if the template has no slot for it.
-/

namespace Storybind.Page

/-- A section of the script block. -/
inductive Section where
  | bundled
  | inlined
  | player (slot : String)
  | components
  | custom
deriving DecidableEq

namespace Section

/-- The sections in the order of the block. -/
def all : List Section :=
  [bundled, inlined] ++ Player.slots.map player ++ [components, custom]

def label : Section → String
  | bundled => "Bundled dependencies"
  | inlined => "Inline dependencies"
  | player slot => slot
  | components => "Component JavaScript"
  | custom => "Custom JavaScript"

section

variable (template : String) (scripts : List (String × String)) (texts : ScriptTexts)

/-- The text of a section; a script of the player that is missing has none. -/
def content : Section → String
  | bundled => texts.bundled
  | inlined => texts.inlined
  | player slot => (scripts.lookup slot).getD ""
  | components => texts.components
  | custom => texts.custom

/-- Whether a section stands in the block: a script of the player if it is not empty and has no slot
in the template, any other if it is not blank. -/
def stands : Section → Bool
  | player slot => (player slot).content scripts texts ≠ "" &&
      Template.slotCount template.toList slot.toList = 0
  | s => !Text.isBlankText (s.content scripts texts)

/-- The sections that stand in the block, in order. -/
def standing : List Section := all.filter (stands template scripts texts)

/-- The script element of a section. -/
def element (s : Section) : String := scriptElement s.label (s.content scripts texts)

end

theorem nodup_all : all.Nodup := by decide

theorem player_mem_all {slot : String} (h : slot ∈ Player.slots) : player slot ∈ all :=
  List.mem_append_left _ (List.mem_append_right _ (List.mem_map_of_mem h))

end Section

variable {template : String} {values scripts : List (String × String)} {texts : ScriptTexts}

open Section (standing stands element)

/-- A text that is left out if it is blank is the part of the block for its section. -/
theorem filledScript_eq {s : Section}
    (hs : s.stands template scripts texts = !Text.isBlankText (s.content scripts texts)) :
    filledScript s.label (s.content scripts texts) =
      ([s].filter (stands template scripts texts)).map (element scripts texts) := by
  rw [filledScript, List.filter_singleton, hs]
  cases Text.isBlankText (s.content scripts texts) <;> rfl

theorem playerScripts_eq (template : String) (scripts : List (String × String))
    (texts : ScriptTexts) :
    playerScripts template scripts = ((Player.slots.map Section.player).filter
      (stands template scripts texts)).map (element scripts texts) := by
  unfold playerScripts
  induction Player.slots with
  | nil => rfl
  | cons slot rest ih =>
    rw [List.flatMap_cons, ih, List.map_cons, List.filter_cons, stands, Section.content]
    cases hslot : scripts.lookup slot with
    | none => rfl
    | some content =>
      by_cases hempty : content = "" <;>
        by_cases hplaced : Template.slotCount template.toList slot.toList = 0 <;>
          simp [hslot, hempty, hplaced, Template.contains_written, element, Section.label,
            Section.content]

/-- The script elements of a page are those of its sections. -/
theorem scriptElements_eq (template : String) (scripts : List (String × String))
    (texts : ScriptTexts) :
    scriptElements template scripts texts =
      (standing template scripts texts).map (element scripts texts) := by
  have hall : Section.all = [.bundled] ++ [.inlined] ++ Player.slots.map .player ++
      [.components] ++ [.custom] := by simp [Section.all]
  rw [scriptElements, playerScripts_eq template scripts texts, standing, hall]
  simp only [List.filter_append, List.map_append]
  rw [← filledScript_eq (s := .bundled) rfl, ← filledScript_eq (s := .inlined) rfl,
    ← filledScript_eq (s := .components) rfl, ← filledScript_eq (s := .custom) rfl]
  rfl

/-! ### What a page gives out -/

/-- What a page gives out at one place: a character of the template, the value of a slot, a script of
the player at a slot of its own, or a section of the script block. -/
inductive Emission where
  | char (c : Char)
  | value (name : String)
  | placed (name : String)
  | element (s : Section)
deriving DecidableEq

namespace Emission

/-- The text that is given out. -/
def text (values scripts : List (String × String)) (texts : ScriptTexts) : Emission → List Char
  | char c => [c]
  | value name => ((values.lookup name).getD "").toList
  | placed name => guardChars ((scripts.lookup name).getD "").toList
  | element s => (s.element scripts texts).toList

/-- The slot that the script block is put into. -/
def blockSlot : String := "RUNTIME_SCRIPTS"

/-- What a piece of the template gives out; the sections of the script block stand on lines of their
own. -/
def ofPiece (template : String) (values scripts : List (String × String)) (texts : ScriptTexts) :
    Template.Piece → List Emission
  | .char c => [.char c]
  | .slot name =>
    if name = blockSlot.toList then
      ((standing template scripts texts).map .element).intersperse (.char '\n')
    else if (values.lookup (String.ofList name)).isSome then [.value (String.ofList name)]
    else if (scripts.lookup (String.ofList name)).isSome then [.placed (String.ofList name)]
    else []

/-- Whether a script of the player is given out. -/
def gives (slot : String) (e : Emission) : Bool := e = .placed slot || e = .element (.player slot)

/-- The name of the slot at which a script of the player is given out, if it is one. -/
def placed? : Emission → Option String
  | placed name => some name
  | _ => none

/-- The section of the script block that is given out, if it is one. -/
def section? : Emission → Option Section
  | element s => some s
  | _ => none

end Emission

open Emission (blockSlot)

theorem filterMap_intersperse {α β : Type} {f : α → Option β} {a : α} (ha : f a = none)
    (xs : List α) : (xs.intersperse a).filterMap f = xs.filterMap f := by
  induction xs with
  | nil => rfl
  | cons x xs ih =>
    cases xs with
    | nil => rfl
    | cons y ys =>
      rw [List.intersperse_cons_cons, List.filterMap_cons, List.filterMap_cons_none ha, ih,
        ← List.filterMap_cons]

theorem flatMap_intersperse {α β : Type} (f : α → List β) (a : α) (xs : List α) :
    (xs.intersperse a).flatMap f = (f a).intercalate (xs.map f) := by
  induction xs with
  | nil => rfl
  | cons x xs ih =>
    cases xs with
    | nil => simp
    | cons y ys =>
      rw [List.intersperse_cons_cons, List.flatMap_cons, List.flatMap_cons, ih]
      simp only [List.map_cons, List.intercalate_cons_cons, List.append_assoc]

/-- What a list gives where one element gives something and the others nothing. -/
theorem flatMap_ite_eq {α β : Type} [DecidableEq α] (a : α) (ys : List β) (xs : List α) :
    (xs.flatMap fun x => if x = a then ys else []) = (List.replicate (xs.count a) ys).flatten := by
  induction xs with
  | nil => rfl
  | cons x xs ih =>
    rw [List.flatMap_cons, ih, List.count_cons]
    by_cases hx : x = a
    · simp [hx, List.replicate_succ]
    · simp [hx]

/-- What a piece gives out is what it is filled with. -/
theorem text_ofPiece (hblock : values.lookup blockSlot = some (scriptBlock template scripts texts))
    (p : Template.Piece) :
    (Emission.ofPiece template values scripts texts p).flatMap (Emission.text values scripts texts) =
      p.filled (Template.contentOf values scripts) := by
  cases p with
  | char c => rfl
  | slot name =>
    rw [Emission.ofPiece, Template.Piece.filled, Template.contentOf]
    split
    · next hname =>
      rw [hname, String.ofList_toList, hblock]
      simp only
      rw [scriptBlock, Text.join, String.toList_intercalate, scriptElements_eq, flatMap_intersperse,
        List.map_map, List.map_map]
      rfl
    · cases hvalue : values.lookup (String.ofList name) with
      | some v => simp [Emission.text, hvalue]
      | none =>
        cases hscript : scripts.lookup (String.ofList name) with
        | some s => simp [Emission.text, hscript]
        | none => rfl

theorem sections_ofPiece (p : Template.Piece) :
    (Emission.ofPiece template values scripts texts p).filterMap Emission.section? =
      if p = .slot blockSlot.toList then standing template scripts texts else [] := by
  cases p with
  | char c => rfl
  | slot name =>
    simp only [Emission.ofPiece, Template.Piece.slot.injEq]
    split
    · rw [filterMap_intersperse rfl, List.filterMap_map]
      exact List.filterMap_some
    · split
      · rfl
      · split <;> rfl

/-- A script of the player is given out by its own slots, and by the script block if it stands there. -/
theorem countP_gives_ofPiece {slot : String} (hslot : slot ≠ blockSlot)
    (hvalue : values.lookup slot = none) (hscript : (scripts.lookup slot).isSome)
    (p : Template.Piece) :
    (Emission.ofPiece template values scripts texts p).countP (Emission.gives slot) =
      (if p = .slot slot.toList then 1 else 0) +
        ((if p = .slot blockSlot.toList then standing template scripts texts else []).countP
          fun s => s = .player slot) := by
  cases p with
  | char c => rfl
  | slot name =>
    simp only [Emission.ofPiece, Template.Piece.slot.injEq]
    have hne : blockSlot.toList ≠ slot.toList := fun h => hslot (String.toList_injective h).symm
    by_cases hblock : name = blockSlot.toList
    · subst hblock
      -- what stands between the scripts of the block gives none of them out
      rw [if_pos rfl, if_neg hne, if_pos rfl, Nat.zero_add, List.countP_eq_length_filter,
        ← List.filterMap_eq_filter, filterMap_intersperse rfl, List.filterMap_eq_filter,
        ← List.countP_eq_length_filter, List.countP_map]
      refine List.countP_congr fun s _ => ?_
      simp [Emission.gives]
    · rw [if_neg hblock, if_neg hblock, List.countP_nil, Nat.add_zero]
      by_cases hown : name = slot.toList
      · subst hown
        simp [hvalue, hscript, Emission.gives]
      · have hother : String.ofList name ≠ slot := by
          rintro rfl
          exact hown String.toList_ofList.symm
        rw [if_neg hown]
        split
        · simp [Emission.gives]
        · split
          · simp [Emission.gives, hother]
          · rfl

/-- A section that can stand in the block stands there once, or not at all. -/
theorem countP_standing {s : Section} (h : s ∈ Section.all) :
    (standing template scripts texts).countP (fun x => x = s) =
      if s.stands template scripts texts then 1 else 0 := by
  have hcount : (standing template scripts texts).countP (fun x => x = s) =
      (standing template scripts texts).count s := rfl
  rw [hcount, standing]
  split
  · next hs => rw [List.count_filter hs, List.count_eq_one_of_mem Section.nodup_all h]
  · next hs => exact List.count_eq_zero_of_not_mem fun hmem => hs (List.mem_filter.mp hmem).2

theorem isName_of_mem_slots {slot : String} (h : slot ∈ Player.slots) :
    Template.IsName slot.toList := by
  have hread : ∀ s ∈ Player.slots, Template.slot? (Template.token s.toList) = some s.toList := by
    decide
  exact (Template.slot?_eq_some.mp (hread slot h)).1

/-- The number of times that pieces give out a script of the player. -/
theorem countP_gives {ps : List Template.Piece} {slot : String} (hslot : slot ≠ blockSlot)
    (hvalue : values.lookup slot = none) (hscript : (scripts.lookup slot).isSome) :
    (ps.flatMap (Emission.ofPiece template values scripts texts)).countP (Emission.gives slot) =
      ps.count (.slot slot.toList) + ps.count (.slot blockSlot.toList) *
        (standing template scripts texts).countP fun s => s = .player slot := by
  induction ps with
  | nil => simp
  | cons p ps ih =>
    rw [List.flatMap_cons, List.countP_append, ih, countP_gives_ofPiece hslot hvalue hscript,
      List.count_cons, List.count_cons]
    by_cases hp : p = .slot blockSlot.toList
    · simp [hp]
      ring
    · simp [hp]
      ring

/-- Only its own slots give out a script of the player outside the block. -/
theorem slot_mem_of_placed {ps : List Template.Piece} {slot : String}
    (h : .placed slot ∈ ps.flatMap (Emission.ofPiece template values scripts texts)) :
    .slot slot.toList ∈ ps := by
  obtain ⟨p, hp, hmem⟩ := List.mem_flatMap.mp h
  cases p with
  | char c => simp [Emission.ofPiece] at hmem
  | slot name =>
    simp only [Emission.ofPiece] at hmem
    split at hmem
    · have hplaced := List.mem_filterMap.mpr ⟨_, hmem, (rfl : Emission.placed? _ = some slot)⟩
      rw [filterMap_intersperse rfl] at hplaced
      simp [Emission.placed?] at hplaced
    · split at hmem
      · simp at hmem
      · split at hmem
        · obtain rfl := Emission.placed.inj (List.mem_singleton.mp hmem)
          rwa [String.toList_ofList]
        · cases hmem

/-- Where a page takes in the script block at one place, every script of the player that is not empty
is given out as often as the template has slots for it, and once if it has none; and the sections of the
block come in their order. -/
theorem emits_each_script
    (hone : Template.slotCount template.toList blockSlot.toList = 1)
    (hvalues : ∀ slot ∈ Player.slots, values.lookup slot = none)
    (hblock : values.lookup blockSlot = some (scriptBlock template scripts texts)) :
    ∃ ps es, Template.Reads template.toList ps ∧
      es = ps.flatMap (Emission.ofPiece template values scripts texts) ∧
      (Template.fill template values scripts).toList =
        es.flatMap (Emission.text values scripts texts) ∧
      es.filterMap Emission.section? = Section.all.filter (stands template scripts texts) ∧
      ∀ slot ∈ Player.slots, ∀ s, scripts.lookup slot = some s → s ≠ "" →
        es.countP (Emission.gives slot) = max 1 (Template.slotCount template.toList slot.toList) ∧
          ¬(.placed slot ∈ es ∧ .element (.player slot) ∈ es) := by
  obtain ⟨ps, hscans⟩ := Template.exists_scans template.toList
  have hreads : Template.Reads template.toList ps := Template.reads_of_scans hscans
  have hcount {name : String} (hname : Template.IsName name.toList) :
      ps.count (.slot name.toList) = Template.slotCount template.toList name.toList :=
    (Template.slotCount_eq_count hname hreads).symm
  have hplaces : ps.count (.slot blockSlot.toList) = 1 := by
    rw [hcount (Template.slot?_eq_some.mp (by decide :
      Template.slot? (Template.token blockSlot.toList) = some blockSlot.toList)).1, hone]
  have hsections : (ps.flatMap (Emission.ofPiece template values scripts texts)).filterMap
      Emission.section? = standing template scripts texts := by
    rw [List.filterMap_flatMap, funext sections_ofPiece, flatMap_ite_eq, hplaces,
      List.replicate_one, List.flatten_singleton]
  refine ⟨ps, _, hreads, rfl, ?_, hsections, fun slot hslot s hs hfilled => ?_⟩
  · rw [Template.fill, String.toList_ofList, Template.fillFrom_scans hscans, List.flatMap_assoc]
    exact List.flatMap_congr fun p _ => (text_ofPiece hblock p).symm
  · have hne : slot ≠ blockSlot := by
      rintro rfl
      exact absurd hslot (by decide)
    have hstands : (Section.player slot).stands template scripts texts =
        decide (Template.slotCount template.toList slot.toList = 0) := by
      simp [stands, Section.content, hs, hfilled]
    constructor
    · rw [countP_gives hne (hvalues slot hslot) (Option.isSome_of_mem hs), hplaces, Nat.one_mul,
        countP_standing (Section.player_mem_all hslot), hcount (isName_of_mem_slots hslot), hstands]
      simp only [decide_eq_true_eq]
      split <;> omega
    · rintro ⟨hplaced, helement⟩
      have hpos : 0 < ps.count (.slot slot.toList) :=
        List.count_pos_iff.mpr (slot_mem_of_placed hplaced)
      have hmem := List.mem_filterMap.mpr
        ⟨_, helement, (rfl : Emission.section? _ = some (Section.player slot))⟩
      rw [hsections] at hmem
      have hzero := (List.mem_filter.mp hmem).2
      rw [hstands, decide_eq_true_eq, ← hcount (isName_of_mem_slots hslot)] at hzero
      omega

/-- A template with one slot for the block and two for a script of the player, one of them in braces. -/
def tray : String :=
  "\x7b\x7bRUNTIME_SCRIPTS\x7d\x7d\x7b\x7b\x7bUTILS_POLYFILLS_JS\x7d\x7d\x7d" ++
    "\x7b\x7bUTILS_POLYFILLS_JS\x7d\x7d"

def trayScripts : List (String × String) :=
  [("UTILS_POLYFILLS_JS", "p()"), ("RUNTIME_SAVE_MANAGER_JS", "s()")]

def trayTexts : ScriptTexts := ⟨"b()", " ", "", "c()"⟩

def trayValues : List (String × String) := [(blockSlot, scriptBlock tray trayScripts trayTexts)]

theorem emits_each_script_tray :
    Template.slotCount tray.toList blockSlot.toList = 1 ∧
    (∀ slot ∈ Player.slots, trayValues.lookup slot = none) ∧
    trayValues.lookup blockSlot = some (scriptBlock tray trayScripts trayTexts) ∧
    ∃ es : List Emission,
      (Template.fill tray trayValues trayScripts).toList =
        es.flatMap (Emission.text trayValues trayScripts trayTexts) ∧
      es.filterMap Emission.section? =
        [.bundled, .player "RUNTIME_SAVE_MANAGER_JS", .custom] ∧
      es.countP (Emission.gives "UTILS_POLYFILLS_JS") = 2 ∧
      es.countP (Emission.gives "RUNTIME_SAVE_MANAGER_JS") = 1 := by
  have hone : Template.slotCount tray.toList blockSlot.toList = 1 := by decide +kernel
  have hvalues : ∀ slot ∈ Player.slots, trayValues.lookup slot = none := by decide +kernel
  have hblock : trayValues.lookup blockSlot = some (scriptBlock tray trayScripts trayTexts) := rfl
  obtain ⟨ps, es, -, -, htext, hsections, hcounts⟩ := emits_each_script hone hvalues hblock
  refine ⟨hone, hvalues, hblock, es, htext, hsections.trans (by decide +kernel), ?_, ?_⟩
  · rw [(hcounts "UTILS_POLYFILLS_JS" (by decide) "p()" rfl (by decide)).1]
    decide +kernel
  · rw [(hcounts "RUNTIME_SAVE_MANAGER_JS" (by decide) "s()" rfl (by decide)).1]
    decide +kernel

end Storybind.Page
