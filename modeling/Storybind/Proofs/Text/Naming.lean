import Mathlib.Tactic
import Storybind.Text.Chars

/-!
Names by the characters that they may have: one of a first kind, and behind it any number of a second.
Where a name is taken to end with its line, one line break behind it makes no difference.
-/

namespace Storybind.Text

/-- A letter of ASCII. -/
def IsLetter (c : Char) : Prop := ('A' ≤ c ∧ c ≤ 'Z') ∨ ('a' ≤ c ∧ c ≤ 'z')

/-- A letter or digit of ASCII. -/
def IsLetterOrDigit (c : Char) : Prop := IsLetter c ∨ ('0' ≤ c ∧ c ≤ '9')

instance : DecidablePred IsLetter := fun c =>
  inferInstanceAs (Decidable (('A' ≤ c ∧ c ≤ 'Z') ∨ ('a' ≤ c ∧ c ≤ 'z')))

instance : DecidablePred IsLetterOrDigit := fun c =>
  inferInstanceAs (Decidable (IsLetter c ∨ ('0' ≤ c ∧ c ≤ '9')))

theorem not_isLetter_break : ¬IsLetter '\n' := by decide

theorem not_isLetterOrDigit_break : ¬IsLetterOrDigit '\n' := by decide

theorem isAsciiLetter_iff {c : Char} : isAsciiLetter c = true ↔ IsLetter c := by
  simp only [isAsciiLetter, Bool.or_eq_true, Bool.and_eq_true, decide_eq_true_eq]
  rfl

theorem isAsciiAlnum_iff {c : Char} : isAsciiAlnum c = true ↔ IsLetterOrDigit c := by
  simp only [isAsciiAlnum, isAsciiDigit, IsLetterOrDigit, ← isAsciiLetter_iff, Bool.or_eq_true,
    Bool.and_eq_true, decide_eq_true_eq]
  rfl

/-- The characters that names may have: the first, and those behind it. A line break is none of them.
-/
structure Naming where
  first : Char → Prop
  others : Char → Prop
  first_break : ¬first '\n'
  others_break : ¬others '\n'

namespace Naming

variable {g : Naming} {name : String}

/-- Whether a name has these characters and no others. -/
def Fits (g : Naming) (name : String) : Prop :=
  ∃ c rest, name.toList = c :: rest ∧ g.first c ∧ ∀ d ∈ rest, g.others d

/-- Whether a name, or what stands before one line break at its end, has these characters and no
others. -/
def FitsLine (g : Naming) (name : String) : Prop :=
  g.Fits name ∨ ∃ stem, name = stem ++ "\n" ∧ g.Fits stem

theorem FitsLine.exists_first (h : g.FitsLine name) : ∃ c rest, name.toList = c :: rest ∧ g.first c := by
  rcases h with ⟨c, rest, hname, hc, -⟩ | ⟨stem, rfl, c, rest, hstem, hc, -⟩
  · exact ⟨c, rest, hname, hc⟩
  · exact ⟨c, rest ++ ['\n'], by rw [String.toList_append, hstem]; rfl, hc⟩

theorem FitsLine.chars (h : g.FitsLine name) :
    ∀ c ∈ name.toList, g.first c ∨ g.others c ∨ c = '\n' := by
  have hfits {s : String} (hs : g.Fits s) : ∀ c ∈ s.toList, g.first c ∨ g.others c ∨ c = '\n' := by
    obtain ⟨c, rest, hchars, hc, hrest⟩ := hs
    rw [hchars]
    exact List.forall_mem_cons.mpr ⟨.inl hc, fun d hd => .inr (.inl (hrest d hd))⟩
  rcases h with h | ⟨stem, rfl, h⟩
  · exact hfits h
  · rw [String.toList_append]
    exact List.forall_mem_append.mpr ⟨hfits h, List.forall_mem_singleton.mpr (.inr (.inr rfl))⟩

theorem Fits.break_not_mem (h : g.Fits name) : '\n' ∉ name.toList := by
  obtain ⟨c, rest, hname, hc, hrest⟩ := h
  rw [hname, List.mem_cons]
  rintro (rfl | hmem)
  · exact g.first_break hc
  · exact g.others_break (hrest _ hmem)

end Naming

/-! ### Reading a name up to the end of its line -/

/-- A text without one line break at its end. -/
def withoutBreak (cs : List Char) : List Char :=
  match cs.reverse with
  | '\n' :: rest => rest.reverse
  | _ => cs

theorem withoutBreak_break (line : List Char) : withoutBreak (line ++ ['\n']) = line := by
  rw [withoutBreak, List.reverse_append]
  exact List.reverse_reverse line

theorem withoutBreak_concat {c : Char} (hc : c ≠ '\n') (line : List Char) :
    withoutBreak (line ++ [c]) = line ++ [c] := by
  rw [withoutBreak, List.reverse_append]
  split
  · next rest hreversed => exact absurd (List.cons.inj hreversed).1 hc
  · rfl

theorem withoutBreak_cons {c : Char} {cs : List Char} (h : cs = [] → c ≠ '\n') :
    withoutBreak (c :: cs) = c :: withoutBreak cs := by
  rcases List.eq_nil_or_concat cs with rfl | ⟨line, d, rfl⟩
  · exact withoutBreak_concat (h rfl) []
  · rw [List.concat_eq_append, ← List.cons_append]
    by_cases hd : d = '\n'
    · rw [hd, withoutBreak_break, withoutBreak_break]
    · rw [withoutBreak_concat hd, withoutBreak_concat hd, List.cons_append]

namespace Naming

/-- A name is read without the line break at its end. -/
theorem fitsLine_iff {g : Naming} {name : String} : g.FitsLine name ↔
      ∃ c rest, withoutBreak name.toList = c :: rest ∧ g.first c ∧ ∀ d ∈ rest, g.others d := by
  -- a name that fits holds no line break, so none is taken from its end
  have hread (h : g.Fits name) : withoutBreak name.toList = name.toList := by
    have hbreak := h.break_not_mem
    rcases List.eq_nil_or_concat name.toList with hnil | ⟨line, e, hline⟩
    · rw [hnil]
      rfl
    · rw [hline, List.concat_eq_append] at hbreak ⊢
      refine withoutBreak_concat ?_ line
      rintro rfl
      exact hbreak (List.mem_append_right _ List.mem_cons_self)
  constructor
  · rintro (h | ⟨stem, rfl, c, rest, hstem, hc, hrest⟩)
    · have ⟨c, rest, hname, hc, hrest⟩ := h
      exact ⟨c, rest, (hread h).trans hname, hc, hrest⟩
    · refine ⟨c, rest, ?_, hc, hrest⟩
      rw [String.toList_append]
      exact (withoutBreak_break stem.toList).trans hstem
  · rintro ⟨c, rest, hline, hc, hrest⟩
    rcases List.eq_nil_or_concat name.toList with hnil | ⟨line, e, hname⟩
    · rw [hnil] at hline
      cases hline
    · rw [hname, List.concat_eq_append] at hline
      by_cases he : e = '\n'
      · rw [he, withoutBreak_break] at hline
        refine .inr ⟨String.ofList line, ?_, c, rest, ?_, hc, hrest⟩
        · rw [← String.toList_inj, hname, he, String.toList_append, String.toList_ofList,
            List.concat_eq_append]
          rfl
        · rw [String.toList_ofList, hline]
      · rw [withoutBreak_concat he] at hline
        exact .inl ⟨c, rest, by rw [hname, List.concat_eq_append, hline], hc, hrest⟩

end Naming

/-- Whether a name, without one line break at its end, has a first character of one class and only
characters of another behind it. -/
def readsName (p q : Char → Bool) (name : String) : Bool :=
  match withoutBreak name.toList with
  | c :: rest => p c && rest.all q
  | [] => false

theorem Naming.readsName_iff {g : Naming} {p q : Char → Bool} {name : String}
    (hp : ∀ c, p c = true ↔ g.first c) (hq : ∀ c, q c = true ↔ g.others c) :
    readsName p q name = true ↔ g.FitsLine name := by
  rw [fitsLine_iff, readsName]
  cases withoutBreak name.toList with
  | nil => exact iff_of_false Bool.false_ne_true (by simp)
  | cons c rest =>
    simp only [Bool.and_eq_true, List.all_eq_true, hp, hq, List.cons.injEq]
    constructor
    · exact fun h => ⟨c, rest, ⟨rfl, rfl⟩, h⟩
    · rintro ⟨_, _, ⟨rfl, rfl⟩, h⟩
      exact h

end Storybind.Text
