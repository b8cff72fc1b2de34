import Mathlib.Tactic
import Storybind.Page.Template
import Storybind.Proofs.Text.Pieces

/-!
What filling does to a template. Slots are told by the positions at which they stand, and no two of
them overlap; so a template reads in one way as characters and slots, and filling puts the content of
its name in the place of each slot and keeps every other character.
-/

namespace Storybind.Page.Template

/-- What stands between the braces of a slot. -/
def IsName (name : List Char) : Prop :=
  ∃ c rest, name = c :: rest ∧ isCapital c = true ∧ ∀ d ∈ rest, isNameChar d = true

/-- A slot with its braces. -/
def token (name : List Char) : List Char := '\x7b' :: '\x7b' :: (name ++ ['\x7d', '\x7d'])

/-- Whether the slot of a name stands at a position of a text. -/
def SlotAt (t : List Char) (i : Nat) (name : List Char) : Prop :=
  IsName name ∧ token name <+: t.drop i

variable {s t r name : List Char} {i j : Nat}

theorem length_token (name : List Char) : (token name).length = name.length + 4 := by
  simp [token]

theorem isNameChar_of_isCapital {c : Char} (h : isCapital c = true) : isNameChar c = true := by
  simp [isNameChar, h]

theorem IsName.isNameChar (h : IsName name) : ∀ d ∈ name, Template.isNameChar d = true := by
  obtain ⟨c, rest, rfl, hc, hrest⟩ := h
  exact List.forall_mem_cons.mpr ⟨isNameChar_of_isCapital hc, hrest⟩

/-- No brace is part of a name. -/
theorem IsName.brace_not_mem (h : IsName name) : '\x7b' ∉ name ∧ '\x7d' ∉ name :=
  ⟨fun hm => absurd (h.isNameChar _ hm) (by decide), fun hm => absurd (h.isNameChar _ hm) (by decide)⟩

theorem takeWhile_name (h : IsName name) (r : List Char) :
    (name ++ '\x7d' :: r).takeWhile isNameChar = name ∧
      (name ++ '\x7d' :: r).dropWhile isNameChar = '\x7d' :: r := by
  have hclosing : isNameChar '\x7d' = false := by decide
  constructor
  · rw [List.takeWhile_append_of_pos h.isNameChar, List.takeWhile_cons_of_neg (by simp [hclosing]),
      List.append_nil]
  · rw [List.dropWhile_append_of_pos h.isNameChar, List.dropWhile_cons_of_neg (by simp [hclosing])]

theorem slot?_token (h : IsName name) (r : List Char) : slot? (token name ++ r) = some name := by
  have hread := takeWhile_name h ('\x7d' :: r)
  obtain ⟨c, rest, rfl, hc, hrest⟩ := h
  have hname : isNameChar c = true := isNameChar_of_isCapital hc
  have hafter : Text.after? ['\x7b', '\x7b'] (token (c :: rest) ++ r) =
      some (c :: (rest ++ '\x7d' :: '\x7d' :: r)) := by
    rw [Text.after?_eq_some]
    simp [token]
  rw [List.cons_append, List.takeWhile_cons_of_pos hname, List.dropWhile_cons_of_pos hname] at hread
  simp only [slot?, hafter, hc, hread.2, hread.1]

/-- The name that is read at the start of a text is that of the slot which stands there. -/
theorem slot?_eq_some : slot? s = some name ↔ SlotAt s 0 name := by
  constructor
  · intro h
    unfold slot? at h
    split at h
    · next c cs hafter =>
      simp only at h
      split at h
      · next r hc hdrop =>
        obtain rfl := Option.some.inj h
        have hcs : cs = cs.takeWhile isNameChar ++ '\x7d' :: '\x7d' :: r := by
          rw [← hdrop, List.takeWhile_append_dropWhile]
        refine ⟨⟨c, _, rfl, hc, fun d hd => List.all_eq_true.mp List.all_takeWhile d hd⟩, r, ?_⟩
        rw [List.drop_zero, Text.after?_eq_some.mp hafter]
        nth_rewrite 2 [hcs]
        simp [token]
      · cases h
    · cases h
  · rintro ⟨hname, r, hr⟩
    rw [List.drop_zero] at hr
    rw [← hr, slot?_token hname]

/-- One slot at most stands at a position. -/
theorem SlotAt.unique {a b : List Char} (ha : SlotAt t i a) (hb : SlotAt t i b) : a = b := by
  have hstart {n : List Char} (h : SlotAt t i n) : SlotAt (t.drop i) 0 n := by
    simpa [SlotAt] using h
  have heq := (slot?_eq_some.mpr (hstart ha)).symm.trans (slot?_eq_some.mpr (hstart hb))
  exact Option.some.inj heq

theorem slotAt_append (s t : List Char) (i : Nat) (name : List Char) :
    SlotAt (s ++ t) (s.length + i) name ↔ SlotAt t i name := by
  rw [SlotAt, SlotAt, List.drop_append, List.drop_eq_nil_of_le (Nat.le_add_right _ _),
    Nat.add_sub_cancel_left, List.nil_append]

theorem slotAt_token (h : IsName name) (r : List Char) : SlotAt (token name ++ r) 0 name :=
  ⟨h, by rw [List.drop_zero]; exact List.prefix_append _ _⟩

/-- No slot begins within another: after the first brace of one there is no other pair of opening
braces. -/
theorem not_slotAt_inside {b : List Char} (h : IsName name) (hi : 0 < i)
    (hlt : i < (token name).length) : ¬SlotAt (token name ++ r) i b := by
  rintro ⟨-, q, hq⟩
  have hfirst : (token name ++ r)[i]? = some '\x7b' := by
    rw [← List.head?_drop, ← hq]
    rfl
  have hsecond : (token name ++ r)[i + 1]? = some '\x7b' := by
    rw [← List.head?_drop, ← List.drop_drop, ← hq]
    rfl
  obtain ⟨hopening, -⟩ := h.brace_not_mem
  obtain ⟨c, rest, rfl, hc, -⟩ := h
  obtain ⟨k, rfl⟩ : ∃ k, i = k + 1 := ⟨i - 1, by omega⟩
  cases k with
  | zero =>
    -- the second brace of the slot, and its name after it
    have heq : c = '\x7b' := by simpa [token] using hsecond
    rw [heq] at hc
    exact absurd hc (by decide)
  | succ k =>
    have hin : k < (c :: rest ++ ['\x7d', '\x7d']).length := by
      simp only [length_token, List.length_cons, List.length_append, List.length_nil] at hlt ⊢
      omega
    have hmem : '\x7b' ∈ c :: rest ++ ['\x7d', '\x7d'] := by
      refine List.mem_of_getElem? (i := k) ?_
      have hk : (token (c :: rest) ++ r)[k + 1 + 1]? = (c :: rest ++ ['\x7d', '\x7d'])[k]? := by
        rw [token, List.cons_append, List.cons_append, List.getElem?_cons_succ,
          List.getElem?_cons_succ, List.getElem?_append_left hin]
      rw [← hk, hfirst]
    rcases List.mem_append.mp hmem with hm | hm
    · exact hopening hm
    · exact absurd hm (by decide)

/-- The slots of a text do not overlap. -/
theorem SlotAt.disjoint {a b : List Char} (ha : SlotAt t i a) (hb : SlotAt t j b) (hij : i < j) :
    i + (token a).length ≤ j := by
  by_contra hlt
  obtain ⟨hname, r, hr⟩ := ha
  have hinside : SlotAt (token a ++ r) (j - i) b := by
    rw [hr]
    rw [SlotAt, List.drop_drop]
    rwa [show i + (j - i) = j by omega]
  exact not_slotAt_inside hname (by omega) (by omega) hinside

/-! ### Reading a template -/

/-- A piece of a template: a character that stands for itself, or a slot. -/
inductive Piece where
  | char (c : Char)
  | slot (name : List Char)
deriving DecidableEq

namespace Piece

/-- A piece as it stands in the template. -/
def source : Piece → List Char
  | char c => [c]
  | slot name => token name

/-- What takes the place of a piece. -/
def filled (content : List Char → List Char) : Piece → List Char
  | char c => [c]
  | slot name => content name

end Piece

/-- A template as pieces: they spell it, and their slots are the ones that stand in it, where they
stand. -/
structure Reads (t : List Char) (ps : List Piece) : Prop where
  source : ps.flatMap Piece.source = t
  slots : ∀ i name, SlotAt t i name ↔
    ∃ before after, ps = before ++ .slot name :: after ∧
      (before.flatMap Piece.source).length = i

/-- The reading of a template from its start. -/
inductive Scans : List Char → List Piece → Prop where
  | nil : Scans [] []
  | slot {name r : List Char} {ps : List Piece} (hname : IsName name) (h : Scans r ps) :
      Scans (token name ++ r) (.slot name :: ps)
  | char {c : Char} {r : List Char} {ps : List Piece} (hno : ∀ name, ¬SlotAt (c :: r) 0 name)
      (h : Scans r ps) : Scans (c :: r) (.char c :: ps)

variable {p : Piece} {ps qs : List Piece}

theorem Piece.source_length_pos (p : Piece) : 0 < p.source.length := by
  cases p with
  | char c => exact Nat.one_pos
  | slot name => exact Nat.lt_of_lt_of_eq (Nat.succ_pos _) (length_token name).symm

/-- Where a slot stands among pieces is told piece by piece. -/
theorem exists_slot_cons :
    (∃ before after, p :: ps = before ++ .slot name :: after ∧
        (before.flatMap Piece.source).length = i) ↔
      (p = .slot name ∧ i = 0) ∨ ∃ j, i = p.source.length + j ∧ ∃ before after,
        ps = before ++ .slot name :: after ∧ (before.flatMap Piece.source).length = j := by
  constructor
  · rintro ⟨before, after, heq, hlen⟩
    cases before with
    | nil =>
      obtain ⟨hp, -⟩ := List.cons.inj heq
      exact .inl ⟨hp, hlen.symm⟩
    | cons q before =>
      obtain ⟨rfl, hps⟩ := List.cons.inj heq
      refine .inr ⟨_, ?_, before, after, hps, rfl⟩
      rw [← hlen, List.flatMap_cons, List.length_append]
  · rintro (⟨rfl, rfl⟩ | ⟨j, rfl, before, after, rfl, rfl⟩)
    · exact ⟨[], ps, rfl, rfl⟩
    · exact ⟨p :: before, after, rfl, by rw [List.flatMap_cons, List.length_append]⟩

/-- The first piece of a reading is read at the start, and the others read what is left. -/
theorem reads_cons : Reads t (p :: ps) ↔
    ∃ r, t = p.source ++ r ∧ Reads r ps ∧ (∀ name, SlotAt t 0 name ↔ p = .slot name) ∧
      ∀ i name, 0 < i → i < p.source.length → ¬SlotAt t i name := by
  have hpos := p.source_length_pos
  constructor
  · intro h
    refine ⟨ps.flatMap Piece.source, h.source.symm, ⟨rfl, fun i name => ?_⟩, fun name => ?_, ?_⟩
    -- what stands in the rest stands behind the first piece in the whole
    · have hshift := slotAt_append p.source (ps.flatMap Piece.source) i name
      rw [← List.flatMap_cons, h.source] at hshift
      rw [← hshift, h.slots, exists_slot_cons]
      constructor
      · rintro (⟨-, hzero⟩ | ⟨j, hj, hslot⟩)
        · omega
        · rwa [show i = j by omega]
      · exact fun hslot => .inr ⟨i, rfl, hslot⟩
    · rw [h.slots, exists_slot_cons]
      constructor
      · rintro (⟨hp, -⟩ | ⟨j, hj, -⟩)
        · exact hp
        · omega
      · exact fun hp => .inl ⟨hp, rfl⟩
    · intro i name hi hlt hslot
      rcases exists_slot_cons.mp ((h.slots i name).mp hslot) with ⟨-, hzero⟩ | ⟨j, hj, -⟩
      · omega
      · omega
  · rintro ⟨r, rfl, hr, hstart, hinside⟩
    refine ⟨by rw [List.flatMap_cons, hr.source], fun i name => ?_⟩
    rw [exists_slot_cons]
    -- a position is at the start, inside the first piece or in the rest
    rcases Nat.eq_zero_or_pos i with rfl | hi
    · rw [hstart]
      constructor
      · exact fun hp => .inl ⟨hp, rfl⟩
      · rintro (⟨hp, -⟩ | ⟨j, hj, -⟩)
        · exact hp
        · omega
    · by_cases hlt : i < p.source.length
      · refine iff_of_false (hinside i name hi hlt) ?_
        rintro (⟨-, hzero⟩ | ⟨j, hj, -⟩)
        · omega
        · omega
      · obtain ⟨j, rfl⟩ : ∃ j, i = p.source.length + j := ⟨i - p.source.length, by omega⟩
        rw [slotAt_append, hr.slots]
        constructor
        · exact fun hslot => .inr ⟨j, rfl, hslot⟩
        · rintro (⟨-, hzero⟩ | ⟨k, hk, hslot⟩)
          · omega
          · rwa [show j = k by omega]

theorem reads_nil : Reads t [] ↔ t = [] := by
  constructor
  · exact fun h => h.source.symm
  · rintro rfl
    refine ⟨rfl, fun i name => iff_of_false ?_ ?_⟩
    · rintro ⟨-, q, hq⟩
      rw [List.drop_nil] at hq
      cases hq
    · rintro ⟨before, after, heq, -⟩
      cases before <;> cases heq

theorem scans_of_reads (h : Reads t ps) : Scans t ps := by
  induction ps generalizing t with
  | nil => exact reads_nil.mp h ▸ .nil
  | cons p ps ih =>
    obtain ⟨r, rfl, hr, hstart, -⟩ := reads_cons.mp h
    cases p with
    | char c => exact .char (fun name hslot => nomatch (hstart name).mp hslot) (ih hr)
    | slot name => exact .slot ((hstart name).mpr rfl).1 (ih hr)

theorem reads_of_scans (h : Scans t ps) : Reads t ps := by
  induction h with
  | nil => exact reads_nil.mpr rfl
  | @slot name r ps hname _ ih =>
    refine reads_cons.mpr ⟨r, rfl, ih, fun other => ?_, fun i other hi hlt =>
      not_slotAt_inside hname hi hlt⟩
    constructor
    · exact fun hslot => congrArg Piece.slot ((slotAt_token hname r).unique hslot)
    · intro heq
      obtain rfl := Piece.slot.inj heq
      exact slotAt_token hname r
  | @char c r ps hno _ ih =>
    refine reads_cons.mpr ⟨r, rfl, ih, fun other => ?_, fun i other hi hlt => ?_⟩
    · exact iff_of_false (hno other) nofun
    · exact absurd hlt (Nat.not_lt.mpr hi)

theorem exists_scans (t : List Char) : ∃ ps, Scans t ps := by
  induction h : t.length using Nat.strong_induction_on generalizing t with
  | _ n ih =>
    cases hslot : slot? t with
    | some name =>
      obtain ⟨hname, r, hr⟩ := slot?_eq_some.mp hslot
      rw [List.drop_zero] at hr
      have hshort : r.length < n := by
        rw [← h, ← hr, List.length_append, length_token]
        omega
      obtain ⟨ps, hps⟩ := ih r.length hshort r rfl
      exact ⟨.slot name :: ps, hr ▸ .slot hname hps⟩
    | none =>
      cases t with
      | nil => exact ⟨[], .nil⟩
      | cons c r =>
        obtain ⟨ps, hps⟩ := ih r.length (by rw [← h]; exact Nat.lt_succ_self _) r rfl
        refine ⟨.char c :: ps, .char (fun name hat => ?_) hps⟩
        rw [slot?_eq_some.mpr hat] at hslot
        cases hslot

theorem Scans.unique (hp : Scans t ps) (hq : Scans t qs) : ps = qs := by
  induction hp generalizing qs with
  | nil => cases hq; rfl
  | @slot name r ps hname _ ih =>
    generalize htext : token name ++ r = t at hq
    cases hq with
    | nil => cases htext
    | @slot other q qs hother hq =>
      have hat : SlotAt (token name ++ r) 0 other := htext ▸ slotAt_token hother q
      obtain rfl := (slotAt_token hname r).unique hat
      rw [ih (List.append_cancel_left htext ▸ hq)]
    | char hno _ => exact absurd (htext ▸ slotAt_token hname r) (hno name)
  | @char c r ps hno _ ih =>
    generalize htext : c :: r = t at hq
    cases hq with
    | nil => cases htext
    | @slot other q qs hother _ => exact absurd (htext ▸ slotAt_token hother q) (hno other)
    | char _ hq =>
      obtain ⟨rfl, rfl⟩ := List.cons.inj htext
      rw [ih hq]

/-! ### Counting slots -/

/-- How often the slot of a name stands in a text. -/
def slotCount (t name : List Char) : Nat := t.tails.countP fun s => (token name).isPrefixOf s

theorem slotCount_cons (c : Char) (s name : List Char) :
    slotCount (c :: s) name = slotCount s name + if token name <+: c :: s then 1 else 0 := by
  simp only [slotCount, List.tails_cons, List.countP_cons, List.isPrefixOf_iff_prefix]

theorem slotCount_append_of_not (h : ∀ i < s.length, ¬token name <+: (s ++ t).drop i) :
    slotCount (s ++ t) name = slotCount t name := by
  induction s with
  | nil => rfl
  | cons c s ih =>
    have hfirst : ¬token name <+: c :: (s ++ t) := h 0 (Nat.succ_pos _)
    rw [List.cons_append, slotCount_cons, if_neg hfirst, Nat.add_zero]
    exact ih fun i hi => h (i + 1) (Nat.succ_lt_succ hi)

/-- A slot stands as often in a template as among the pieces that it reads as. -/
theorem slotCount_eq_count (hname : IsName name) (h : Reads t ps) :
    slotCount t name = ps.count (.slot name) := by
  induction ps generalizing t with
  | nil =>
    rw [reads_nil.mp h]
    rfl
  | cons p ps ih =>
    obtain ⟨r, rfl, hr, hstart, hinside⟩ := reads_cons.mp h
    obtain ⟨c, source, hsource⟩ := List.exists_cons_of_length_pos p.source_length_pos
    rw [hsource] at hstart hinside ⊢
    have hrest : slotCount (source ++ r) name = slotCount r name := by
      refine slotCount_append_of_not fun i hi hprefix => ?_
      exact hinside (i + 1) name (Nat.succ_pos i) (Nat.succ_lt_succ hi) ⟨hname, hprefix⟩
    have hfirst : token name <+: c :: (source ++ r) ↔ p = .slot name :=
      Iff.trans ⟨fun hprefix => ⟨hname, hprefix⟩, fun hslot => hslot.2⟩ (hstart name)
    rw [List.cons_append, slotCount_cons, hrest, ih hr, List.count_cons]
    simp only [hfirst, beq_iff_eq]

theorem slotCount_eq_zero : slotCount t name = 0 ↔ ¬token name <:+: t := by
  rw [slotCount, List.countP_eq_zero, List.infix_iff_prefix_suffix]
  simp only [List.mem_tails, List.isPrefixOf_iff_prefix]
  constructor
  · rintro h ⟨s, hprefix, hsuffix⟩
    exact h s hsuffix hprefix
  · exact fun h s hsuffix hprefix => h ⟨s, hprefix, hsuffix⟩

/-- A template contains the written form of a slot where the slot stands in it. -/
theorem contains_written (template name : String) :
    Text.contains template (written name) = decide (slotCount template.toList name.toList ≠ 0) := by
  have htoken : (written name).toList = token name.toList := by
    simp [written, token]
  rw [Text.contains, htoken, Bool.eq_iff_iff, Text.cutAt?_isSome, decide_eq_true_iff, Ne,
    slotCount_eq_zero, not_not]

/-! ### Filling -/

variable {content : List Char → List Char}

theorem fillFrom_skip (s r : List Char) : fillFrom content s.length (s ++ r) = fillFrom content 0 r := by
  induction s with
  | nil => rfl
  | cons c cs ih => exact ih

theorem fillFrom_scans (h : Scans t ps) : fillFrom content 0 t = ps.flatMap (Piece.filled content) := by
  induction h with
  | nil => rfl
  | @slot name r ps hname _ ih =>
    have htoken : token name ++ r = '\x7b' :: ('\x7b' :: (name ++ ['\x7d', '\x7d']) ++ r) := rfl
    have hlength : ('\x7b' :: (name ++ ['\x7d', '\x7d'])).length = name.length + 3 := by simp
    have hslot : slot? ('\x7b' :: ('\x7b' :: (name ++ ['\x7d', '\x7d']) ++ r)) = some name :=
      slot?_token hname r
    rw [htoken, fillFrom, hslot]
    simp only
    rw [← hlength, fillFrom_skip, ih]
    rfl
  | @char c r ps hno _ ih =>
    have hslot : slot? (c :: r) = none := by
      rw [Option.eq_none_iff_forall_ne_some]
      exact fun name h => hno name (slot?_eq_some.mp h)
    rw [fillFrom, hslot]
    simp only
    rw [ih]
    rfl

/-- The slots of a template do not overlap, and filling it puts the content of its name in the place of
each of them, once, and keeps every other character. -/
theorem fill_substitutes (template : String) (values scripts : List (String × String)) :
    (∀ i j a b, SlotAt template.toList i a → SlotAt template.toList j b →
      (i = j → a = b) ∧ (i < j → i + (token a).length ≤ j)) ∧
    (∃! ps, Reads template.toList ps) ∧
    ∀ ps, Reads template.toList ps →
      (fill template values scripts).toList =
        ps.flatMap (Piece.filled (contentOf values scripts)) := by
  refine ⟨fun i j a b ha hb => ⟨?_, ha.disjoint hb⟩, ?_, fun ps hps => ?_⟩
  · rintro rfl
    exact ha.unique hb
  · obtain ⟨ps, hps⟩ := exists_scans template.toList
    exact ⟨ps, reads_of_scans hps, fun qs hqs => (scans_of_reads hqs).unique hps⟩
  · rw [fill, String.toList_ofList, fillFrom_scans (scans_of_reads hps)]

/-- A brace before a slot, two slots side by side, of which one holds the other as text, and a brace
after them. -/
theorem fill_substitutes_braces :
    SlotAt "\x7b\x7b\x7bA\x7d\x7d\x7b\x7bB\x7d\x7d\x7d".toList 1 ['A'] ∧
    SlotAt "\x7b\x7b\x7bA\x7d\x7d\x7b\x7bB\x7d\x7d\x7d".toList 6 ['B'] ∧
    Reads "\x7b\x7b\x7bA\x7d\x7d\x7b\x7bB\x7d\x7d\x7d".toList
      [.char '\x7b', .slot ['A'], .slot ['B'], .char '\x7d'] ∧
    (fill "\x7b\x7b\x7bA\x7d\x7d\x7b\x7bB\x7d\x7d\x7d" [("A", "\x7b\x7bB\x7d\x7d")]
      [("B", "</script>")]).toList = "\x7b\x7b\x7bB\x7d\x7d<\\/script>\x7d".toList := by
  have hA : IsName ['A'] := ⟨'A', [], rfl, by decide, nofun⟩
  have hB : IsName ['B'] := ⟨'B', [], rfl, by decide, nofun⟩
  have hreads : Reads "\x7b\x7b\x7bA\x7d\x7d\x7b\x7bB\x7d\x7d\x7d".toList
      [.char '\x7b', .slot ['A'], .slot ['B'], .char '\x7d'] := by
    refine reads_of_scans (.char (fun name h => ?_) (.slot hA (.slot hB (.char ?_ .nil))))
    · cases slot?_eq_some.mpr h
    · intro name h
      cases slot?_eq_some.mpr h
  have hfill := (fill_substitutes "\x7b\x7b\x7bA\x7d\x7d\x7b\x7bB\x7d\x7d\x7d"
    [("A", "\x7b\x7bB\x7d\x7d")] [("B", "</script>")]).2.2 _ hreads
  exact ⟨⟨hA, by decide⟩, ⟨hB, by decide⟩, hreads, hfill.trans (by decide)⟩

end Storybind.Page.Template
