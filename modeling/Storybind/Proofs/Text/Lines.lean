import Mathlib.Tactic
import Storybind.Text.Pieces

/-!
The lines of a text. A line starts at the start of the text and behind every line break; the number of a
line is that of the line breaks before it.
-/

namespace Storybind.Text

/-- The lines of a text, without their line breaks. -/
def linesOf (s : String) : List (List Char) := splitChars '\n' s.toList

/-- A text up to its first line break. -/
def firstLine (s : List Char) : List Char := s.takeWhile (· ≠ '\n')

/-- Whether a line starts behind a text. -/
def StartsLine (s : List Char) : Prop := ∀ c, s.getLast? = some c → c = '\n'

variable {s t before rest line : List Char} {c : Char} {k : Nat}

theorem firstLine_cons (c : Char) (s : List Char) :
    firstLine (c :: s) = if c = '\n' then [] else c :: firstLine s := by
  by_cases hc : c = '\n'
  · simp [firstLine, hc]
  · simp [firstLine, hc]

theorem firstLine_append (s t : List Char) :
    firstLine (s ++ t) = if '\n' ∈ s then firstLine s else s ++ firstLine t := by
  induction s with
  | nil => rfl
  | cons c cs ih =>
    rw [List.cons_append, firstLine_cons, firstLine_cons, ih]
    by_cases hc : c = '\n'
    · simp [hc]
    · by_cases hcs : '\n' ∈ cs
      · simp [hc, hcs]
      · simp [hc, hcs, Ne.symm hc]

theorem firstLine_of_not_mem (h : '\n' ∉ s) : firstLine s = s := by
  have happend := firstLine_append s []
  rw [if_neg h, List.append_nil] at happend
  exact happend.trans (List.append_nil s)

/-- A text is its first line and what starts with a line break, if anything. -/
theorem exists_firstLine (s : List Char) : ∃ rest, s = firstLine s ++ rest ∧ '\n' ∉ firstLine s ∧
    firstLine rest = [] := by
  induction s with
  | nil => exact ⟨[], rfl, List.not_mem_nil, rfl⟩
  | cons c cs ih =>
    obtain ⟨rest, hcs, hnone, hrest⟩ := ih
    rw [firstLine_cons]
    by_cases hc : c = '\n'
    · exact ⟨c :: cs, by simp [hc], by simp [hc], by rw [firstLine_cons, if_pos hc]⟩
    · rw [if_neg hc]
      exact ⟨rest, congrArg (c :: ·) hcs, by simp [Ne.symm hc, hnone], hrest⟩

theorem StartsLine.nil : StartsLine [] := nofun

theorem startsLine_cons : StartsLine (c :: s) ↔ StartsLine s ∧ (s = [] → c = '\n') := by
  cases s with
  | nil => simp [StartsLine]
  | cons d ds => simp [StartsLine]

theorem StartsLine.append (h : StartsLine s) (hne : s ≠ []) (t : List Char) : StartsLine (t ++ s) := by
  intro c hc
  rw [List.getLast?_append_of_ne_nil _ hne] at hc
  exact h c hc

/-- A text ends within a line that starts somewhere. -/
theorem exists_lastLine (s : List Char) : ∃ before line, s = before ++ line ∧ StartsLine before ∧
    '\n' ∉ line := by
  induction s with
  | nil => exact ⟨[], [], rfl, .nil, List.not_mem_nil⟩
  | cons c cs ih =>
    obtain ⟨before, line, rfl, hbefore, hline⟩ := ih
    by_cases hstart : before = [] ∧ c ≠ '\n'
    · obtain ⟨rfl, hc⟩ := hstart
      exact ⟨[], c :: line, rfl, .nil, by simp [Ne.symm hc, hline]⟩
    · refine ⟨c :: before, line, rfl, startsLine_cons.mpr ⟨hbefore, fun hempty => ?_⟩, hline⟩
      by_contra hc
      exact hstart ⟨hempty, hc⟩

theorem StartsLine.eq_nil (h : StartsLine s) (hcount : s.count '\n' = 0) : s = [] := by
  cases hlast : s.getLast? with
  | none => exact List.getLast?_eq_none_iff.mp hlast
  | some c =>
    have hmem := List.mem_of_getLast? hlast
    rw [h c hlast] at hmem
    exact absurd hmem (List.count_eq_zero.mp hcount)

theorem exists_lines_cons (hc : c ≠ '\n') (s : List Char) : ∃ p ps, splitChars '\n' s = p :: ps ∧
    splitChars '\n' (c :: s) = (c :: p) :: ps := by
  have hne : splitChars '\n' s ≠ [] := by
    induction s with
    | nil => exact List.cons_ne_nil _ _
    | cons d ds =>
      rw [splitChars]
      split
      · exact List.cons_ne_nil _ _
      · split <;> exact List.cons_ne_nil _ _
  obtain ⟨p, ps, hs⟩ := List.exists_cons_of_ne_nil hne
  refine ⟨p, ps, hs, ?_⟩
  rw [splitChars, if_neg hc, hs]

/-- Whether a line of a text has a number of line breaks before it. -/
def LineAt (s : List Char) (k : Nat) (line : List Char) : Prop :=
  ∃ before rest, s = before ++ rest ∧ StartsLine before ∧ before.count '\n' = k ∧ firstLine rest = line

theorem lineAt_zero : LineAt s 0 line ↔ firstLine s = line := by
  constructor
  · rintro ⟨before, rest, rfl, hbefore, hcount, hrest⟩
    rw [hbefore.eq_nil hcount]
    exact hrest
  · intro h
    exact ⟨[], s, rfl, .nil, rfl, h⟩

theorem not_lineAt_nil : ¬LineAt [] (k + 1) line := by
  rintro ⟨before, rest, hempty, -, hcount, -⟩
  obtain ⟨rfl, -⟩ := List.append_eq_nil_iff.mp hempty.symm
  cases hcount

theorem lineAt_break : LineAt ('\n' :: s) (k + 1) line ↔ LineAt s k line := by
  constructor
  · rintro ⟨before, rest, heq, hbefore, hcount, hrest⟩
    cases before with
    | nil => cases hcount
    | cons b bs =>
      obtain ⟨rfl, rfl⟩ := List.cons.inj heq
      rw [List.count_cons_self] at hcount
      exact ⟨bs, rest, rfl, (startsLine_cons.mp hbefore).1, Nat.succ.inj hcount, hrest⟩
  · rintro ⟨before, rest, rfl, hbefore, rfl, hrest⟩
    exact ⟨'\n' :: before, rest, rfl, startsLine_cons.mpr ⟨hbefore, fun _ => rfl⟩,
      List.count_cons_self, hrest⟩

theorem lineAt_cons (hc : c ≠ '\n') : LineAt (c :: s) (k + 1) line ↔ LineAt s (k + 1) line := by
  constructor
  · rintro ⟨before, rest, heq, hbefore, hcount, hrest⟩
    cases before with
    | nil => cases hcount
    | cons b bs =>
      obtain ⟨rfl, rfl⟩ := List.cons.inj heq
      rw [List.count_cons_of_ne hc] at hcount
      exact ⟨bs, rest, rfl, (startsLine_cons.mp hbefore).1, hcount, hrest⟩
  · rintro ⟨before, rest, rfl, hbefore, hcount, hrest⟩
    -- a line break was counted, so the text before the line is not the one character
    refine ⟨c :: before, rest, rfl, startsLine_cons.mpr ⟨hbefore, ?_⟩, ?_, hrest⟩
    · rintro rfl
      cases hcount
    · rw [List.count_cons_of_ne hc, hcount]

/-- A line has as many line breaks before it as lines. -/
theorem getElem?_lines : (splitChars '\n' s)[k]? = some line ↔ LineAt s k line := by
  induction s generalizing k line with
  | nil =>
    cases k with
    | zero =>
      rw [lineAt_zero]
      exact Option.some_inj
    | succ k => exact iff_of_false nofun not_lineAt_nil
  | cons c cs ih =>
    by_cases hc : c = '\n'
    · subst hc
      rw [splitChars, if_pos rfl]
      cases k with
      | zero =>
        rw [lineAt_zero, firstLine_cons, if_pos rfl]
        exact Option.some_inj
      | succ k => exact ih.trans lineAt_break.symm
    · -- the character joins the line behind it, and the numbers of lines stay
      obtain ⟨p, ps, hcs, hlines⟩ := exists_lines_cons hc cs
      rw [hlines]
      rw [hcs] at ih
      cases k with
      | zero =>
        have hfirst : firstLine cs = p := lineAt_zero.mp (ih.mp rfl)
        rw [lineAt_zero, firstLine_cons, if_neg hc, hfirst]
        exact Option.some_inj
      | succ k => exact ih.trans (lineAt_cons hc).symm

end Storybind.Text
