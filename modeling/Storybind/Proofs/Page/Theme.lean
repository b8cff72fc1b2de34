import Mathlib.Tactic
import Storybind.Page.Stylesheet
import Storybind.Proofs.Distinct
import Storybind.Proofs.Text.Pieces

/-!
References to the variables of a theme in a style sheet. No reference begins inside another one, and a
color is no part of one; so a style sheet to which a theme was applied holds no reference to a variable
of the theme, whatever text it was made from.
-/

namespace Storybind.Theme

variable {t : Theme} {name word r s rest out u v : List Char} {c : Char}

/-! ### References -/

/-- Whether a name is that of a variable: two hyphens and a word. -/
def IsVariable (name : List Char) : Prop :=
  ∃ word, name = '-' :: '-' :: word ∧ word ≠ [] ∧ ∀ c ∈ word, isNameChar c = true

/-- The text between the brackets of a reference: a name with blanks around it. -/
def IsInner (inner name : List Char) : Prop :=
  ∃ before after, inner = before ++ name ++ after ∧ IsVariable name ∧
    (∀ c ∈ before, Text.isBlank c = true) ∧ ∀ c ∈ after, Text.isBlank c = true

/-- Whether a text is a reference to the variable of a name. -/
def IsReference (r name : List Char) : Prop :=
  ∃ inner, r = 'v' :: 'a' :: 'r' :: '(' :: (inner ++ [')']) ∧ IsInner inner name

theorem IsVariable.isNameChar (h : IsVariable name) : ∀ c ∈ name, Theme.isNameChar c = true := by
  obtain ⟨word, rfl, -, hword⟩ := h
  simp only [List.mem_cons]
  rintro c (rfl | rfl | hc)
  · decide
  · decide
  · exact hword c hc

theorem not_blank_of_isNameChar (h : isNameChar c = true) : Text.isBlank c = false := by
  have hn : 48 ≤ c.toNat ∧ c.toNat ≤ 122 ∨ c.toNat = 45 := by
    simp only [isNameChar, Text.isAsciiAlnum, Text.isAsciiLetter, Text.isAsciiDigit, Bool.or_eq_true,
      Bool.and_eq_true, decide_eq_true_eq] at h
    rcases h with (h | rfl) | rfl
    · left
      omega
    · left
      decide
    · right
      decide
  simp only [Text.isBlank, Bool.or_eq_false_iff, Bool.and_eq_false_iff, decide_eq_false_iff_not,
    beq_eq_false_iff_ne]
  omega

/-- What may stand between the brackets. -/
theorem IsInner.char (h : IsInner s name) (hc : c ∈ s) :
    isNameChar c = true ∨ Text.isBlank c = true := by
  obtain ⟨before, after, rfl, hname, hbefore, hafter⟩ := h
  rcases List.mem_append.mp hc with hc | hc
  · rcases List.mem_append.mp hc with hc | hc
    · exact Or.inr (hbefore c hc)
    · exact Or.inl (hname.isNameChar c hc)
  · exact Or.inr (hafter c hc)

theorem IsInner.not_mem (h : IsInner s name) : '(' ∉ s ∧ ')' ∉ s ∧ '#' ∉ s := by
  have hnone (d : Char) (hname : isNameChar d = false) (hblank : Text.isBlank d = false) : d ∉ s := by
    intro hd
    rcases h.char hd with hd | hd
    · rw [hname] at hd
      cases hd
    · rw [hblank] at hd
      cases hd
  exact ⟨hnone _ (by decide) (by decide), hnone _ (by decide) (by decide),
    hnone _ (by decide) (by decide)⟩

theorem IsReference.mark_not_mem (h : IsReference r name) : '#' ∉ r := by
  obtain ⟨inner, rfl, hinner⟩ := h
  simp [hinner.not_mem.2.2]

theorem takeWhile_append_stop {p : Char → Bool} (hs : ∀ d ∈ s, p d = true) (hc : p c = false) :
    (s ++ c :: rest).takeWhile p = s := by
  rw [List.takeWhile_append_of_pos hs, List.takeWhile_cons_of_neg (by simp [hc]), List.append_nil]

theorem exists_takeWhile (p : Char → Bool) (s : List Char) :
    ∃ found rest, s = found ++ rest ∧ s.takeWhile p = found ∧ ∀ c ∈ found, p c = true :=
  ⟨s.takeWhile p, s.dropWhile p, List.takeWhile_append_dropWhile.symm, rfl,
    fun c hc => List.all_eq_true.mp List.all_takeWhile c hc⟩

/-- A reference is read where it stands. -/
theorem reference?_append (h : IsReference r name) (rest : List Char) :
    reference? (r ++ rest) = some (name, r.length) := by
  obtain ⟨inner, rfl, before, after, rfl, hname, hbefore, hafter⟩ := h
  have hstart : Text.after? "var(".toList
      ('v' :: 'a' :: 'r' :: '(' :: (before ++ name ++ after ++ [')']) ++ rest) =
        some (before ++ (name ++ (after ++ ')' :: rest))) := by
    rw [Text.after?_eq_some]
    simp
  obtain ⟨d, word, hword⟩ : ∃ d word, name = '-' :: '-' :: d :: word := by
    obtain ⟨word, rfl, hfilled, -⟩ := hname
    obtain ⟨d, word, rfl⟩ := List.exists_cons_of_ne_nil hfilled
    exact ⟨d, word, rfl⟩
  -- the blanks before the name end at its hyphens, the name at a blank or the bracket
  have hblanks : (before ++ (name ++ (after ++ ')' :: rest))).takeWhile Text.isBlank = before := by
    rw [hword]
    exact takeWhile_append_stop hbefore (by decide)
  have hread : (name ++ (after ++ ')' :: rest)).takeWhile isNameChar = name := by
    cases after with
    | nil => exact takeWhile_append_stop hname.isNameChar (by decide)
    | cons e after =>
      refine takeWhile_append_stop hname.isNameChar (Bool.eq_false_iff.mpr fun he => ?_)
      have hblank := hafter e List.mem_cons_self
      rw [not_blank_of_isNameChar he] at hblank
      cases hblank
  have hmore : (after ++ ')' :: rest).takeWhile Text.isBlank = after :=
    takeWhile_append_stop hafter (by decide)
  have hend : (name ++ (after ++ ')' :: rest)).drop (name.length + after.length) = ')' :: rest := by
    rw [← List.append_assoc, ← List.length_append, List.drop_left]
  simp only [reference?, hstart, Option.bind_eq_bind, Option.bind_some, hblanks, List.drop_left, hread,
    hmore, hend]
  rw [hword]
  simp only [List.length_cons, List.length_append, List.length_nil, Option.some.injEq, Prod.mk.injEq,
    true_and]
  omega

/-- What is read as a reference is the reference at the start of the text. -/
theorem reference?_eq_some {n : Nat} : reference? s = some (name, n) ↔
    ∃ r rest, s = r ++ rest ∧ IsReference r name ∧ n = r.length := by
  constructor
  · intro h
    unfold reference? at h
    obtain ⟨inner, hinner, h⟩ := Option.bind_eq_some_iff.mp h
    rw [Text.after?_eq_some] at hinner
    -- the text is cut into the blanks, the name, the blanks after it and the rest
    obtain ⟨before, named, rfl, hblanks, hbefore⟩ := exists_takeWhile Text.isBlank inner
    simp only [hblanks, List.drop_left] at h
    obtain ⟨found, more, rfl, hread, hfound⟩ := exists_takeWhile isNameChar named
    simp only [hread, List.drop_left] at h
    obtain ⟨after, closing, rfl, hmore, hafter⟩ := exists_takeWhile Text.isBlank more
    rw [hmore, ← List.append_assoc, ← List.length_append, List.drop_left] at h
    split at h
    · next d word rest =>
      obtain ⟨rfl, rfl⟩ := Prod.mk.inj (Option.some.inj h)
      have hword : ∀ c ∈ d :: word, isNameChar c = true :=
        fun c hc => hfound c (List.mem_cons_of_mem _ (List.mem_cons_of_mem _ hc))
      refine ⟨_, rest, ?_, ⟨_, rfl, before, after, rfl, ⟨_, rfl, List.cons_ne_nil d word, hword⟩,
        hbefore, hafter⟩, ?_⟩
      · rw [hinner]
        simp
      · simp only [List.length_cons, List.length_append, List.length_nil]
        omega
    · cases h
  · rintro ⟨r, rest, rfl, hr, rfl⟩
    exact reference?_append hr rest

/-- Two references at one place are one reference. -/
theorem IsReference.unique {r' name' : List Char} (h : IsReference r name) (h' : IsReference r' name')
    (hr : r <+: s) (hr' : r' <+: s) : r = r' ∧ name = name' := by
  obtain ⟨rest, rfl⟩ := hr
  obtain ⟨rest', hrest⟩ := hr'
  have hread := reference?_append h' rest'
  rw [hrest, reference?_append h rest] at hread
  obtain ⟨hname, hlength⟩ := Prod.mk.inj (Option.some.inj hread)
  exact ⟨(List.append_inj hrest.symm hlength).1, hname⟩

/-- No reference begins inside another one. -/
theorem IsReference.not_inside {r' name' : List Char} (h : IsReference (u ++ v) name) (hu : u ≠ [])
    (hv : v ≠ []) (h' : IsReference r' name') : ¬r' <+: v ++ s := by
  obtain ⟨inner, hinner, hin⟩ := h
  obtain ⟨inner', rfl, -⟩ := h'
  obtain ⟨hopen, hclose, -⟩ := hin.not_mem
  rintro ⟨rest, hrest⟩
  match u, hu with
  | [x], _ =>
    obtain ⟨-, rfl⟩ := List.cons.inj hinner
    exact absurd (List.cons.inj hrest).1 (by decide)
  | [x, y], _ =>
    obtain ⟨-, rfl⟩ := List.cons.inj (List.cons.inj hinner).2
    exact absurd (List.cons.inj hrest).1 (by decide)
  | [x, y, z], _ =>
    obtain ⟨-, rfl⟩ := List.cons.inj (List.cons.inj (List.cons.inj hinner).2).2
    exact absurd (List.cons.inj hrest).1 (by decide)
  | x :: y :: z :: w :: u, _ =>
    obtain ⟨v, last, rfl⟩ := (List.eq_nil_or_concat v).resolve_left hv
    simp only [List.cons_append, List.cons.injEq, List.concat_eq_append] at hinner
    obtain ⟨-, -, -, -, htail⟩ := hinner
    have hboth : (u ++ v) ++ [last] = inner ++ [')'] := by rw [List.append_assoc, htail]
    obtain ⟨rfl, hlast⟩ := List.append_inj' hboth rfl
    obtain rfl := List.singleton_inj.mp hlast
    -- the other one would have to go on behind the end of this one
    match v with
    | [] => exact absurd (List.cons.inj hrest).1 (by decide)
    | [a] => exact absurd (List.cons.inj (List.cons.inj hrest).2).1 (by decide)
    | [a, b] => exact absurd (List.cons.inj (List.cons.inj (List.cons.inj hrest).2).2).1 (by decide)
    | [a, b, c] =>
      exact absurd (List.cons.inj (List.cons.inj (List.cons.inj (List.cons.inj hrest).2).2).2).1
        (by decide)
    | a :: b :: c :: d :: v =>
      obtain rfl := (List.cons.inj (List.cons.inj (List.cons.inj (List.cons.inj hrest).2).2).2).1
      exact hopen (by simp)

/-! ### Applying a theme -/

/-- What a style sheet becomes, from its start to its end: references to variables of the theme are
replaced by the values, references to other variables and all characters beside references are kept. -/
inductive Applies (t : Theme) : List Char → List Char → Prop where
  | nil : Applies t [] []
  | replaced {r name rest out : List Char} {value : String} (hr : IsReference r name)
      (hvalue : t.properties.lookup (String.ofList name) = some value) (hrest : Applies t rest out) :
      Applies t (r ++ rest) (value.toList ++ out)
  | kept {r name rest out : List Char} (hr : IsReference r name)
      (hnone : t.properties.lookup (String.ofList name) = none) (hrest : Applies t rest out) :
      Applies t (r ++ rest) (r ++ out)
  | char {c : Char} {rest out : List Char} (hno : ∀ r name, IsReference r name → ¬r <+: c :: rest)
      (hrest : Applies t rest out) : Applies t (c :: rest) (c :: out)

theorem reference?_eq_none (h : ∀ r name, IsReference r name → ¬r <+: s) : reference? s = none := by
  rw [Option.eq_none_iff_forall_ne_some]
  rintro ⟨name, n⟩ hread
  obtain ⟨r, rest, rfl, hr, -⟩ := reference?_eq_some.mp hread
  exact h r name hr (List.prefix_append r rest)

theorem applyFrom_skip (s rest : List Char) : applyFrom t s.length (s ++ rest) = applyFrom t 0 rest := by
  induction s with
  | nil => rfl
  | cons c s ih => exact ih

/-- Where no reference begins a character is kept. -/
theorem applyFrom_char (h : ∀ r name, IsReference r name → ¬r <+: c :: rest) :
    applyFrom t 0 (c :: rest) = c :: applyFrom t 0 rest := by
  rw [applyFrom, reference?_eq_none h]

theorem applyFrom_inside (h : IsReference (u ++ v) name) (hu : u ≠ []) (rest : List Char) :
    applyFrom t 0 (v ++ rest) = v ++ applyFrom t 0 rest := by
  induction v generalizing u with
  | nil => rfl
  | cons c v ih =>
    have hno : ∀ r' name', IsReference r' name' → ¬r' <+: c :: (v ++ rest) :=
      fun r' name' h' => h.not_inside hu (List.cons_ne_nil c v) h'
    have hstep : IsReference ((u ++ [c]) ++ v) name := by
      rwa [List.append_assoc, List.singleton_append]
    rw [List.cons_append, applyFrom_char hno, ih hstep (List.concat_ne_nil c u)]
    rfl

theorem applyFrom_replaced {value : String} (hr : IsReference r name)
    (hvalue : t.properties.lookup (String.ofList name) = some value) (rest : List Char) :
    applyFrom t 0 (r ++ rest) = value.toList ++ applyFrom t 0 rest := by
  have hread := reference?_append hr rest
  obtain ⟨inner, rfl, -⟩ := hr
  rw [List.cons_append] at hread ⊢
  rw [applyFrom, hread]
  simp only [hvalue, List.length_cons, Nat.add_sub_cancel]
  rw [← List.length_cons, ← List.length_cons, ← List.length_cons, applyFrom_skip]

theorem applyFrom_kept (hr : IsReference r name)
    (hnone : t.properties.lookup (String.ofList name) = none) (rest : List Char) :
    applyFrom t 0 (r ++ rest) = r ++ applyFrom t 0 rest := by
  have hread := reference?_append hr rest
  have hwhole := hr
  obtain ⟨inner, rfl, -⟩ := hr
  have hinside := applyFrom_inside (t := t) (u := ['v']) hwhole (List.cons_ne_nil _ _) rest
  rw [List.cons_append] at hread ⊢
  rw [applyFrom, hread]
  simp only [hnone]
  rw [hinside]
  rfl

theorem exists_applies (t : Theme) (s : List Char) : ∃ out, Applies t s out := by
  -- on the length, as a reference is passed in one go
  induction hn : s.length using Nat.strong_induction_on generalizing s with
  | _ n ih =>
    subst hn
    cases s with
    | nil => exact ⟨[], .nil⟩
    | cons c cs =>
      by_cases hreference : ∃ r name, IsReference r name ∧ r <+: c :: cs
      · obtain ⟨r, name, hr, rest, hrest⟩ := hreference
        have hshorter : rest.length < (c :: cs).length := by
          obtain ⟨inner, rfl, -⟩ := hr
          rw [← hrest, List.length_append]
          exact Nat.lt_add_of_pos_left (Nat.succ_pos _)
        obtain ⟨out, hout⟩ := ih rest.length hshorter rest rfl
        rw [← hrest]
        cases hvalue : t.properties.lookup (String.ofList name) with
        | some value => exact ⟨_, .replaced hr hvalue hout⟩
        | none => exact ⟨_, .kept hr hvalue hout⟩
      · obtain ⟨out, hout⟩ := ih cs.length (Nat.lt_succ_self _) cs rfl
        exact ⟨_, .char (fun r name hr hbegins => hreference ⟨r, name, hr, hbegins⟩) hout⟩

/-- Applying a theme gives the one text that the style sheet becomes. -/
theorem applies_iff : Applies t s out ↔ out = applyFrom t 0 s := by
  have hunique {s out : List Char} (h : Applies t s out) : out = applyFrom t 0 s := by
    induction h with
    | nil => rfl
    | replaced hr hvalue _ ih => rw [applyFrom_replaced hr hvalue, ih]
    | kept hr hnone _ ih => rw [applyFrom_kept hr hnone, ih]
    | char hno _ ih => rw [applyFrom_char hno, ih]
  constructor
  · exact hunique
  · rintro rfl
    obtain ⟨out, hout⟩ := exists_applies t s
    rwa [hunique hout] at hout

/-! ### Colors -/

/-- Whether a value is a color: a mark and hexadecimal digits. -/
def IsColor (value : String) : Prop :=
  ∃ digits, value.toList = '#' :: digits ∧ ∀ c ∈ digits, (Text.hexValue? c).isSome = true

theorem isColor_iff {value : String} : (value.toList.head? = some '#' ∧
    value.toList.tail.all (fun c => (Text.hexValue? c).isSome) = true) ↔ IsColor value := by
  unfold IsColor
  rw [List.all_eq_true]
  cases value.toList with
  | nil => simp
  | cons c digits =>
    constructor
    · rintro ⟨hmark, hdigits⟩
      exact ⟨digits, by rw [Option.some.inj hmark], hdigits⟩
    · rintro ⟨_, heq, hdigits⟩
      obtain ⟨rfl, rfl⟩ := List.cons.inj heq
      exact ⟨rfl, hdigits⟩

instance (value : String) : Decidable (IsColor value) := decidable_of_iff _ isColor_iff

/-- Whether all values of a theme are colors. -/
def HasColors (t : Theme) : Prop := ∀ p ∈ t.properties, IsColor p.2

theorem hasColors_of_mem_all : ∀ t ∈ all, t.HasColors := by
  unfold HasColors
  decide +kernel

theorem HasColors.color {value : String} {key : String} (h : t.HasColors)
    (hvalue : t.properties.lookup key = some value) : IsColor value :=
  h (key, value) (Distinct.mem_of_lookup hvalue)

theorem IsColor.start_not_mem {value : String} (h : IsColor value) : 'v' ∉ value.toList := by
  obtain ⟨digits, hvalue, hdigits⟩ := h
  rw [hvalue, List.mem_cons, not_or]
  exact ⟨by decide, fun hmem => absurd (hdigits 'v' hmem) (by decide)⟩

/-- A beginning of the text without a mark is one that was kept. -/
theorem prefix_of_applies (hcolors : t.HasColors) (h : Applies t s out) {w : List Char} (hw : '#' ∉ w)
    (hout : w <+: out) : w <+: s := by
  induction h generalizing w with
  | nil => exact hout
  | replaced hr hvalue _ _ =>
    obtain ⟨digits, hdigits, -⟩ := hcolors.color hvalue
    rw [hdigits, List.cons_append] at hout
    -- the value begins with the mark, so nothing is left of the beginning
    cases w with
    | nil => exact List.nil_prefix
    | cons c w =>
      obtain ⟨rest, hrest⟩ := hout
      exact absurd ((List.cons.inj hrest).1 ▸ List.mem_cons_self) hw
  | @kept r name rest out hr hnone _ ih =>
    rcases List.prefix_or_prefix_of_prefix hout (List.prefix_append r out) with hshort | ⟨w', rfl⟩
    · exact hshort.trans (List.prefix_append r rest)
    · have hlong : w' <+: out := (List.prefix_append_right_inj r).mp hout
      have hw' : '#' ∉ w' := fun hmem => hw (List.mem_append_right r hmem)
      exact (List.prefix_append_right_inj r).mpr (ih hw' hlong)
  | char hno _ ih =>
    cases w with
    | nil => exact List.nil_prefix
    | cons d w =>
      obtain ⟨rfl, hrest⟩ := List.cons_prefix_cons.mp hout
      have hw' : '#' ∉ w := fun hmem => hw (List.mem_cons_of_mem d hmem)
      exact List.cons_prefix_cons.mpr ⟨rfl, ih hw' hrest⟩

/-- A piece that begins nowhere in the first part of a text is in the second part. -/
theorem infix_of_append (h : ∀ u v, s = u ++ v → v ≠ [] → ¬r <+: v ++ rest) (hr : r <:+: s ++ rest) :
    r <:+: rest := by
  induction s with
  | nil => exact hr
  | cons c s ih =>
    rcases List.infix_cons_iff.mp hr with hstart | hlater
    · exact absurd hstart (h [] (c :: s) rfl (List.cons_ne_nil c s))
    · exact ih (fun u v huv hv => h (c :: u) v (by rw [huv]; rfl) hv) hlater

/-- No reference to a variable of the theme is left. -/
theorem not_infix_of_applies (hcolors : t.HasColors) (h : Applies t s out) (hr : IsReference r name)
    (hdefined : (t.properties.lookup (String.ofList name)).isSome = true) : ¬r <:+: out := by
  -- where a piece was replaced or kept the reference would begin in it or in what follows
  induction h with
  | nil =>
    obtain ⟨inner, rfl, -⟩ := hr
    simp
  | @replaced r' name' rest out value hr' hvalue _ ih =>
    refine fun hpiece => ih (infix_of_append (fun u v huv hv hstart => ?_) hpiece)
    -- no reference begins in a color
    have hnone := (hcolors.color hvalue).start_not_mem
    obtain ⟨inner, rfl, -⟩ := hr
    obtain ⟨c, v, rfl⟩ := List.exists_cons_of_ne_nil hv
    obtain ⟨rfl, -⟩ := List.cons_prefix_cons.mp hstart
    exact hnone (by rw [huv]; simp)
  | @kept r' name' rest out hr' hnone _ ih =>
    refine fun hpiece => ih (infix_of_append (fun u v huv hv hstart => ?_) hpiece)
    by_cases hu : u = []
    · -- here it would be the reference to a variable that the theme does not have
      subst hu
      rw [List.nil_append] at huv
      rw [← huv] at hstart
      obtain ⟨-, rfl⟩ := hr.unique hr' hstart (List.prefix_append r' out)
      rw [hnone] at hdefined
      cases hdefined
    · rw [huv] at hr'
      exact hr'.not_inside hu hv hr hstart
  | @char c rest out hno hrest ih =>
    intro hpiece
    rcases List.infix_cons_iff.mp hpiece with hstart | hlater
    · -- a reference holds no mark, so it would have begun there in the style sheet, too
      exact hno r name hr (prefix_of_applies hcolors (.char hno hrest) hr.mark_not_mem hstart)
    · exact ih hlater

/-- A text without references to variables of the theme stays as it is. -/
theorem applyFrom_of_free (h : ∀ r name, IsReference r name →
    (t.properties.lookup (String.ofList name)).isSome = true → ¬r <:+: s) : applyFrom t 0 s = s := by
  obtain ⟨out, hout⟩ := exists_applies t s
  rw [← applies_iff.mp hout]
  induction hout with
  | nil => rfl
  | @replaced r name rest out value hr hvalue _ _ =>
    exact absurd (List.prefix_append r rest).isInfix (h r name hr (by rw [hvalue]; rfl))
  | @kept r name rest out hr hnone _ ih =>
    have hsuffix : rest <:+: r ++ rest := (List.suffix_append r rest).isInfix
    rw [ih fun r' name' h' hdefined hpiece => h r' name' h' hdefined (hpiece.trans hsuffix)]
  | @char c rest out hno _ ih =>
    have hsuffix : rest <:+: c :: rest := (List.suffix_cons c rest).isInfix
    rw [ih fun r' name' h' hdefined hpiece => h r' name' h' hdefined (hpiece.trans hsuffix)]

end Storybind.Theme

namespace Storybind.Page

open Theme (Applies IsReference)

/-- Styles with references to a variable of the theme, to another one and to no variable at all. -/
def mixedStyles : Styles :=
  ⟨"", "p \x7b color: var( --text-color\t); \x7d", " ", "b \x7b color: var(--own, var(--text-color)) \x7d"⟩

end Storybind.Page
