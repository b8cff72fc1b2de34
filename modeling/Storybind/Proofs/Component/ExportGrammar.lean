import Mathlib.Tactic
import Storybind.Component.Exports
import Storybind.Proofs.Script.Grammar
import Storybind.Proofs.Text.Lines

/-!
The exports of a module as they are written, and how the rules that take them away read them: a rule takes
something away exactly where an export of its kind begins.
-/

namespace Storybind

open Storybind.Directive (Blanks dropWhile_blanks takeWhile_blanks)
open Storybind.Text (exists_firstLine firstLine firstLine_append firstLine_cons inRanges isBlank isWord
  letterRanges)

/-! ### Blanks and words -/

theorem Text.inRanges_eq_false {table : Array (Nat × Nat)} {n : Nat}
    (h : table.toList.all (fun r => n < r.1 || r.2 < n) = true) : inRanges table n = false := by
  rw [inRanges, ← Array.any_toList, List.any_eq_false]
  intro r hr
  have hout := List.all_eq_true.mp h r hr
  simp only [Bool.or_eq_true, decide_eq_true_eq] at hout
  simp only [Bool.and_eq_true, decide_eq_true_eq]
  omega

theorem Text.isWord_of_isBlank {c : Char} (h : isBlank c = true) : isWord c = false := by
  have hbeyond : ∀ n ∈ [0x85, 0xa0, 0x1680, 0x2000, 0x2001, 0x2002, 0x2003, 0x2004, 0x2005, 0x2006, 0x2007,
      0x2008, 0x2009, 0x200a, 0x2028, 0x2029, 0x202f, 0x205f, 0x3000],
      letterRanges.toList.all (fun r => n < r.1 || r.2 < n) = true := by decide +kernel
  by_cases hascii : c.toNat < 128
  · have hline : c ≠ '_' := by
      rintro rfl
      cases h
    simp only [isBlank, Bool.or_eq_true, Bool.and_eq_true, decide_eq_true_eq, beq_iff_eq] at h
    rw [isWord, if_pos hascii]
    simp only [isAsciiAlnum, isAsciiLetter, isAsciiDigit, Bool.or_eq_false_iff, Bool.and_eq_false_iff,
      decide_eq_false_iff_not, beq_eq_false_iff_ne]
    refine ⟨?_, hline⟩
    omega
  · rw [isWord, if_neg hascii]
    refine inRanges_eq_false (hbeyond _ ?_)
    simp only [isBlank, Bool.or_eq_true, Bool.and_eq_true, decide_eq_true_eq, beq_iff_eq] at h
    simp only [List.mem_cons, List.not_mem_nil]
    omega

theorem Directive.Blanks.append {s t : List Char} (hs : Blanks s) (ht : Blanks t) : Blanks (s ++ t) :=
  List.forall_mem_append.mpr ⟨hs, ht⟩

theorem Directive.Blanks.line {s : List Char} (h : Blanks s) : Blanks (firstLine s) :=
  fun c hc => h c ((List.takeWhile_prefix _).subset hc)

/-- A line that starts with blanks is blank if what follows them is. -/
theorem Directive.Blanks.line_append {s t : List Char} (hs : Blanks s) (ht : Blanks (firstLine t)) :
    Blanks (firstLine (s ++ t)) := by
  rw [Text.firstLine_append]
  split
  · exact hs.line
  · exact hs.append ht

namespace Exports

variable {s t rest tail line : List Char} {word : String}

/-! ### The grammar -/

/-- At least one blank. -/
def Gap (s : List Char) : Prop := s ≠ [] ∧ Blanks s

/-- What a line may end with behind a statement: blanks, and perhaps a semicolon among them. -/
def IsEnd (line : List Char) : Prop :=
  Blanks line ∨ ∃ gap gap', Blanks gap ∧ Blanks gap' ∧ line = gap ++ ';' :: gap'

/-- A line end whose semicolon follows the statement at once, if there is one. -/
def IsTightEnd (line : List Char) : Prop := Blanks line ∨ ∃ gap, Blanks gap ∧ line = ';' :: gap

/-- A line end with blanks before its semicolon. -/
def IsLooseEnd (line : List Char) : Prop :=
  ∃ gap gap', Gap gap ∧ Blanks gap' ∧ line = gap ++ ';' :: gap'

/-- A word with the blanks behind it, or nothing. -/
inductive IsLead (word : String) : List Char → Prop where
  | absent : IsLead word []
  | present {gap : List Char} (hgap : Gap gap) : IsLead word (word.toList ++ gap)

/-- A declaration: its word, perhaps after `async`, and behind it no further letter. -/
inductive IsDeclaration : List Char → Prop where
  | intro {lead tail : List Char} {word : String} (hlead : IsLead "async" lead)
      (hword : word ∈ declarationWords) (htail : ∀ c, tail.head? = some c → isWord c = false) :
      IsDeclaration (lead ++ (word.toList ++ tail))

/-- A default export of a name, with what may stand behind it on its line. -/
inductive ExportsName (End : List Char → Prop) : List Char → Prop where
  | intro {gap gap' name tail : List Char} (hgap : Gap gap) (hgap' : Gap gap') (hne : name ≠ [])
      (hname : ∀ c ∈ name, isWord c = true) (htail : End (firstLine tail)) :
      ExportsName End ("export".toList ++ (gap ++ ("default".toList ++ (gap' ++ (name ++ tail)))))

/-- What follows the opening brace of a list: names up to the first closing one, and a line end. -/
def Shuts (s : List Char) : Prop :=
  ∃ body tail, '\x7d' ∉ body ∧ IsEnd (firstLine tail) ∧ s = body ++ '\x7d' :: tail

/-- An export of a list in braces. -/
inductive ExportsList : List Char → Prop where
  | intro {gap rest : List Char} (hgap : Blanks gap) (hrest : Shuts rest) :
      ExportsList ("export".toList ++ (gap ++ '\x7b' :: rest))

/-- An export before a declaration. -/
inductive ExportsDeclaration : List Char → Prop where
  | intro {gap lead rest : List Char} (hgap : Gap gap) (hlead : IsLead "default" lead)
      (hrest : IsDeclaration rest) :
      ExportsDeclaration ("export".toList ++ (gap ++ (lead ++ rest)))

/-- Whether a text begins with an export. -/
def IsExport (s : List Char) : Prop :=
  ExportsName IsTightEnd s ∨ ExportsList s ∨ ExportsDeclaration s

/-- Whether a text begins with a default export of a name whose semicolon stands behind blanks. -/
def IsSpaced (s : List Char) : Prop := ExportsName IsLooseEnd s

/-! ### What stands behind -/

/-- What is added behind a text is added to its first line, or not at all. -/
theorem exists_firstLine_append (s : List Char) (h : Blanks (firstLine rest)) :
    ∃ t, Blanks t ∧ firstLine (s ++ rest) = firstLine s ++ t := by
  rw [firstLine_append]
  by_cases hs : '\n' ∈ s
  · exact ⟨[], nofun, by rw [if_pos hs, List.append_nil]⟩
  · exact ⟨firstLine rest, h, by rw [if_neg hs, Text.firstLine_of_not_mem hs]⟩

theorem IsEnd.append (h : IsEnd line) (ht : Blanks t) : IsEnd (line ++ t) := by
  rcases h with hline | ⟨gap, gap', hgap, hgap', rfl⟩
  · exact .inl (hline.append ht)
  · exact .inr ⟨gap, gap' ++ t, hgap, Blanks.append hgap' ht, by simp⟩

theorem IsTightEnd.append (h : IsTightEnd line) (ht : Blanks t) : IsTightEnd (line ++ t) := by
  rcases h with hline | ⟨gap, hgap, rfl⟩
  · exact .inl (hline.append ht)
  · exact .inr ⟨gap ++ t, hgap.append ht, rfl⟩

theorem IsLooseEnd.append (h : IsLooseEnd line) (ht : Blanks t) : IsLooseEnd (line ++ t) := by
  obtain ⟨gap, gap', hgap, hgap', rfl⟩ := h
  exact ⟨gap, gap' ++ t, hgap, Blanks.append hgap' ht, by simp⟩

/-- A text starts with a blank if its first line adds nothing but blanks. -/
theorem isBlank_of_head? {c : Char} (h : Blanks (firstLine rest)) (hc : rest.head? = some c) :
    isBlank c = true := by
  cases rest with
  | nil => cases hc
  | cons d ds =>
    obtain rfl := Option.some.inj hc
    by_cases hd : d = '\n'
    · subst hd
      rfl
    · rw [firstLine_cons, if_neg hd] at h
      exact h d List.mem_cons_self

theorem IsDeclaration.append (h : IsDeclaration s) (hrest : Blanks (firstLine rest)) :
    IsDeclaration (s ++ rest) := by
  obtain ⟨hlead, hword, htail⟩ := h
  simp only [List.append_assoc]
  refine .intro hlead hword fun c hc => ?_
  rw [List.head?_append] at hc
  rcases Option.or_eq_some_iff.mp hc with hc | ⟨-, hc⟩
  · exact htail c hc
  · exact Text.isWord_of_isBlank (isBlank_of_head? hrest hc)

theorem ExportsName.append {End : List Char → Prop} (h : ExportsName End s)
    (hEnd : ∀ line t, End line → Blanks t → End (line ++ t)) (hrest : Blanks (firstLine rest)) :
    ExportsName End (s ++ rest) := by
  cases h with
  | @intro gap gap' name tail hgap hgap' hne hname htail =>
    obtain ⟨t, ht, hline⟩ := exists_firstLine_append tail hrest
    simp only [List.append_assoc]
    exact .intro hgap hgap' hne hname (hline ▸ hEnd _ t htail ht)

theorem Shuts.append (h : Shuts s) (hrest : Blanks (firstLine rest)) : Shuts (s ++ rest) := by
  obtain ⟨body, tail, hbody, htail, rfl⟩ := h
  obtain ⟨t, ht, hline⟩ := exists_firstLine_append tail hrest
  exact ⟨body, tail ++ rest, hbody, hline ▸ htail.append ht, by simp⟩

theorem ExportsList.append (h : ExportsList s) (hrest : Blanks (firstLine rest)) : ExportsList (s ++ rest) := by
  obtain ⟨hgap, hshuts⟩ := h
  simp only [List.append_assoc, List.cons_append]
  exact .intro hgap (hshuts.append hrest)

theorem ExportsDeclaration.append (h : ExportsDeclaration s) (hrest : Blanks (firstLine rest)) :
    ExportsDeclaration (s ++ rest) := by
  obtain ⟨hgap, hlead, hdeclared⟩ := h
  simp only [List.append_assoc]
  exact .intro hgap hlead (hdeclared.append hrest)

/-- Blanks behind an export and further lines do not change that it is one. -/
theorem IsExport.append (h : IsExport s) (hrest : Blanks (firstLine rest)) : IsExport (s ++ rest) := by
  rcases h with hname | hlist | hdeclared
  · exact .inl (hname.append (fun _ _ => IsTightEnd.append) hrest)
  · exact .inr (.inl (hlist.append hrest))
  · exact .inr (.inr (hdeclared.append hrest))

/-- What begins on a line of its own begins there with all that follows. -/
theorem of_firstLine {P : List Char → Prop} (h : P (firstLine s))
    (hP : ∀ s rest, P s → Blanks (firstLine rest) → P (s ++ rest)) : P s := by
  obtain ⟨rest, hs, -, hrest⟩ := exists_firstLine s
  rw [hs]
  exact hP _ rest h (hrest ▸ nofun)

theorem ExportsName.starts {End : List Char → Prop} (h : ExportsName End s) : "export".toList <+: s := by
  cases h
  exact List.prefix_append _ _

theorem IsExport.starts (h : IsExport s) : "export".toList <+: s := by
  rcases h with hname | hlist | hdeclared
  · exact hname.starts
  · cases hlist
    exact List.prefix_append _ _
  · cases hdeclared
    exact List.prefix_append _ _

/-! ### Reading the grammar -/

theorem span_append {p : Char → Bool} (hs : ∀ c ∈ s, p c = true)
    (ht : ∀ c, t.head? = some c → p c = false) : (s ++ t).takeWhile p = s ∧ (s ++ t).dropWhile p = t := by
  rw [List.takeWhile_append_of_pos hs, List.dropWhile_append_of_pos hs]
  cases t with
  | nil => exact ⟨List.append_nil s, rfl⟩
  | cons c cs =>
    have hc : ¬p c = true := by
      rw [ht c rfl]
      decide
    rw [List.takeWhile_cons_of_neg hc, List.dropWhile_cons_of_neg hc, List.append_nil]
    exact ⟨rfl, rfl⟩

theorem head?_dropWhile (p : Char → Bool) (s : List Char) {c : Char}
    (hc : (s.dropWhile p).head? = some c) : p c = false := by
  have hstop := List.head?_dropWhile_not p s
  rw [hc] at hstop
  exact hstop

theorem afterBlanks?_eq_some : afterBlanks? s = some rest ↔
    ∃ gap, Gap gap ∧ (∀ c, rest.head? = some c → isBlank c = false) ∧ s = gap ++ rest := by
  cases s with
  | nil => simp [afterBlanks?, Gap]
  | cons c cs =>
    rw [afterBlanks?]
    constructor
    · intro h
      split at h
      · next hc =>
        obtain rfl := Option.some.inj h
        refine ⟨c :: cs.takeWhile isBlank, ⟨List.cons_ne_nil _ _, ?_⟩, ?_, ?_⟩
        · exact List.forall_mem_cons.mpr ⟨hc, takeWhile_blanks cs⟩
        · exact fun c => head?_dropWhile isBlank cs
        · rw [List.cons_append, List.takeWhile_append_dropWhile]
      · cases h
    · rintro ⟨gap, ⟨hne, hgap⟩, hhead, heq⟩
      obtain ⟨d, ds, rfl⟩ := List.exists_cons_of_ne_nil hne
      obtain ⟨rfl, rfl⟩ := List.cons.inj heq
      obtain ⟨hc, hds⟩ := List.forall_mem_cons.mp hgap
      rw [if_pos hc]
      exact congrArg some (span_append hds hhead).2

/-- The blanks to the end of a line are all that is left, or end with a line break, or are followed by
something else. -/
theorem lineEnd?_cases (s : List Char) :
    (Blanks s ∧ lineEnd? s = some []) ∨
    (∃ before rest, Blanks before ∧ s = before ++ '\n' :: rest ∧ lineEnd? s = some ('\n' :: rest)) ∨
    ¬Blanks (firstLine s) ∧ lineEnd? s = none := by
  have hs : s = s.takeWhile isBlank ++ s.dropWhile isBlank := List.takeWhile_append_dropWhile.symm
  have hblanks := takeWhile_blanks s
  unfold lineEnd?
  by_cases hall : s.dropWhile isBlank = []
  · rw [hall, List.append_nil] at hs
    exact .inl ⟨hs ▸ hblanks, by simp [hall]⟩
  · simp only [List.isEmpty_iff, hall, if_false]
    by_cases hbreak : '\n' ∈ s.takeWhile isBlank
    · obtain ⟨before, after, hcut, hafter⟩ := Text.exists_last_of_mem hbreak
      have hpass : ∀ c ∈ after.reverse, decide (c ≠ '\n') = true := by
        intro c hc
        refine decide_eq_true ?_
        rintro rfl
        exact hafter (List.mem_reverse.mp hc)
      have hlast : ((s.takeWhile isBlank).reverse.takeWhile (· ≠ '\n')).reverse = after := by
        rw [hcut, List.reverse_append, List.reverse_cons, List.append_assoc,
          List.takeWhile_append_of_pos hpass]
        simp
      refine .inr (.inl ⟨before, after ++ s.dropWhile isBlank, ?_, ?_, ?_⟩)
      · rw [hcut] at hblanks
        exact fun c hc => hblanks c (List.mem_append_left _ hc)
      · exact hs.trans (by rw [hcut, List.append_assoc]; rfl)
      · rw [if_pos (List.contains_iff_mem.mpr hbreak), hlast]
        rfl
    · refine .inr (.inr ⟨fun hline => ?_, if_neg fun h => hbreak (List.contains_iff_mem.mp h)⟩)
      -- what stands first behind the blanks is on the same line
      obtain ⟨c, cs, hdrop⟩ := List.exists_cons_of_ne_nil hall
      have hc : isBlank c = false := by
        have hnot := List.head_dropWhile_not isBlank hall
        simpa only [hdrop, List.head_cons] using hnot
      have hne : c ≠ '\n' := by
        rintro rfl
        cases hc
      have hmem : c ∈ firstLine s := by
        rw [hs, hdrop, firstLine_append, if_neg hbreak, firstLine_cons, if_neg hne]
        simp
      rw [hline c hmem] at hc
      cases hc

theorem isSome_lineEnd? : (lineEnd? s).isSome ↔ Blanks (firstLine s) := by
  rcases lineEnd?_cases s with ⟨hs, hend⟩ | ⟨before, rest, hbefore, hs, hend⟩ | ⟨hs, hend⟩
  · rw [hend]
    exact iff_of_true rfl hs.line
  · rw [hend, hs]
    exact iff_of_true rfl (hbefore.line_append nofun)
  · rw [hend]
    exact iff_of_false (by decide) hs

/-- A statement with its line end leaves what starts with a line break, if anything. -/
theorem lineEnd?_eq_some (h : lineEnd? s = some rest) : ∃ piece, s = piece ++ rest ∧ firstLine rest = [] := by
  rcases lineEnd?_cases s with ⟨hs, hend⟩ | ⟨before, after, hbefore, rfl, hend⟩ | ⟨hs, hend⟩
  · rw [hend] at h
    obtain rfl := Option.some.inj h
    exact ⟨s, (List.append_nil s).symm, rfl⟩
  · rw [hend] at h
    obtain rfl := Option.some.inj h
    exact ⟨before, rfl, rfl⟩
  · rw [hend] at h
    cases h

/-- What a list may be followed by is read to the end of its line. -/
def listEnd? (s : List Char) : Option (List Char) :=
  match s.dropWhile isBlank with
  | ';' :: r => (lineEnd? r).or (lineEnd? s)
  | _ => lineEnd? s

/-- What a name may be followed by is read to the end of its line. -/
def nameEnd? : List Char → Option (List Char)
  | ';' :: r => lineEnd? r
  | r => lineEnd? r

theorem isSome_nameEnd? : (nameEnd? s).isSome ↔ IsTightEnd (firstLine s) := by
  unfold nameEnd? IsTightEnd
  split
  · next r =>
    rw [isSome_lineEnd?, firstLine_cons, if_neg (by decide)]
    constructor
    · intro hr
      exact .inr ⟨firstLine r, hr, rfl⟩
    · rintro (hblank | ⟨gap, hgap, heq⟩)
      · exact absurd (hblank ';' List.mem_cons_self) (by decide)
      · rw [(List.cons.inj heq).2]
        exact hgap
  · next hno =>
    rw [isSome_lineEnd?]
    refine (or_iff_left ?_).symm
    rintro ⟨gap, -, heq⟩
    obtain ⟨rest, hs, -⟩ := exists_firstLine s
    rw [heq] at hs
    exact hno (gap ++ rest) hs

theorem IsTightEnd.head? (h : IsTightEnd (firstLine s)) (c : Char) (hc : s.head? = some c) :
    isWord c = false := by
  rcases h with hblank | ⟨gap, -, hline⟩
  · exact Text.isWord_of_isBlank (isBlank_of_head? hblank hc)
  · obtain ⟨rest, hs, -⟩ := exists_firstLine s
    rw [hs, hline] at hc
    obtain rfl := Option.some.inj hc
    decide

theorem nameEnd?_eq_some (h : nameEnd? s = some rest) : ∃ piece, s = piece ++ rest ∧ firstLine rest = [] := by
  unfold nameEnd? at h
  split at h
  · next r =>
    obtain ⟨piece, rfl, hrest⟩ := lineEnd?_eq_some h
    exact ⟨';' :: piece, rfl, hrest⟩
  · exact lineEnd?_eq_some h

theorem isSome_listEnd? : (listEnd? s).isSome ↔ IsEnd (firstLine s) := by
  unfold listEnd?
  split
  · next r hdrop =>
    have hs : s = s.takeWhile isBlank ++ ';' :: r := by
      rw [← hdrop, List.takeWhile_append_dropWhile]
    have hblanks := takeWhile_blanks s
    rw [Option.isSome_or, Bool.or_eq_true, isSome_lineEnd?, isSome_lineEnd?]
    constructor
    · rintro (hr | hline)
      · by_cases hbreak : '\n' ∈ s.takeWhile isBlank
        · rw [hs, firstLine_append, if_pos hbreak]
          exact .inl hblanks.line
        · rw [hs, firstLine_append, if_neg hbreak, firstLine_cons, if_neg (by decide)]
          exact .inr ⟨_, _, hblanks, hr, rfl⟩
      · exact .inl hline
    · rintro (hline | ⟨gap, gap', hgap, hgap', hline⟩)
      · exact .inr hline
      · -- the semicolon of the line is the first character that is no blank
        obtain ⟨rest, hfirst, -, hrest⟩ := exists_firstLine s
        rw [hline] at hfirst
        rw [hfirst, List.append_assoc, List.cons_append, dropWhile_blanks hgap (by decide)] at hdrop
        rw [← (List.cons.inj hdrop).2]
        exact .inl (hgap'.line_append (hrest ▸ nofun))
  · next hno =>
    rw [isSome_lineEnd?]
    refine (or_iff_left ?_).symm
    rintro ⟨gap, gap', hgap, -, heq⟩
    obtain ⟨rest, hs, -⟩ := exists_firstLine s
    rw [heq, List.append_assoc, List.cons_append] at hs
    refine hno (gap' ++ rest) ?_
    rw [hs, dropWhile_blanks hgap (by decide)]

theorem listEnd?_eq_some (h : listEnd? s = some rest) : ∃ piece, s = piece ++ rest ∧ firstLine rest = [] := by
  unfold listEnd? at h
  split at h
  · next r hdrop =>
    rcases Option.or_eq_some_iff.mp h with h | ⟨-, h⟩
    · obtain ⟨piece, rfl, hrest⟩ := lineEnd?_eq_some h
      refine ⟨s.takeWhile isBlank ++ ';' :: piece, ?_, hrest⟩
      rw [List.append_assoc, List.cons_append, ← hdrop, List.takeWhile_append_dropWhile]
    · exact lineEnd?_eq_some h
  · exact lineEnd?_eq_some h

theorem head?_word {name : List Char} (hne : name ≠ []) (hname : ∀ c ∈ name, isWord c = true) {c : Char}
    (hc : (name ++ rest).head? = some c) : isBlank c = false := by
  obtain ⟨d, ds, rfl⟩ := List.exists_cons_of_ne_nil hne
  obtain rfl := Option.some.inj hc
  by_contra hblank
  have hword := Text.isWord_of_isBlank (Bool.eq_true_of_not_eq_false hblank)
  rw [hname d List.mem_cons_self] at hword
  cases hword

theorem defaultName?_eq_some : defaultName? s = some rest ↔ ∃ gap gap' name tail, Gap gap ∧ Gap gap' ∧
    name ≠ [] ∧ (∀ c ∈ name, isWord c = true) ∧ (∀ c, tail.head? = some c → isWord c = false) ∧
    nameEnd? tail = some rest ∧
    s = "export".toList ++ (gap ++ ("default".toList ++ (gap' ++ (name ++ tail)))) := by
  have hdef : defaultName? s = (Text.after? "export".toList s).bind fun s => (afterBlanks? s).bind fun s =>
      (Text.after? "default".toList s).bind fun s => (afterBlanks? s).bind fun s =>
        if (s.takeWhile isWord).isEmpty then none else nameEnd? (s.dropWhile isWord) := rfl
  simp only [hdef, Option.bind_eq_some_iff, Text.after?_eq_some, afterBlanks?_eq_some]
  constructor
  · rintro ⟨_, rfl, _, ⟨gap, hgap, -, rfl⟩, _, rfl, r, ⟨gap', hgap', hhead, rfl⟩, hend⟩
    split at hend
    · cases hend
    · next hname =>
      refine ⟨gap, gap', r.takeWhile isWord, r.dropWhile isWord, hgap, hgap', ?_, ?_, ?_, hend, ?_⟩
      · exact fun hempty => hname (List.isEmpty_iff.mpr hempty)
      · exact fun c hc => List.all_eq_true.mp List.all_takeWhile c hc
      · exact fun c => head?_dropWhile isWord r
      · rw [List.takeWhile_append_dropWhile]
  · rintro ⟨gap, gap', name, tail, hgap, hgap', hne, hname, htail, hend, rfl⟩
    obtain ⟨htake, hdrop⟩ := span_append hname htail
    refine ⟨_, rfl, _, ⟨gap, hgap, ?_, rfl⟩, _, rfl, _, ⟨gap', hgap', fun c => head?_word hne hname, rfl⟩, ?_⟩
    · rintro c hc
      obtain rfl := Option.some.inj hc
      decide
    · rw [htake, hdrop, if_neg (fun hempty => hne (List.isEmpty_iff.mp hempty))]
      exact hend

theorem isSome_defaultName? : (defaultName? s).isSome ↔ ExportsName IsTightEnd s := by
  rw [Option.isSome_iff_exists]
  constructor
  · rintro ⟨rest, h⟩
    obtain ⟨gap, gap', name, tail, hgap, hgap', hne, hname, -, hend, rfl⟩ := defaultName?_eq_some.mp h
    exact .intro hgap hgap' hne hname (isSome_nameEnd?.mp (Option.isSome_of_eq_some hend))
  · rintro ⟨hgap, hgap', hne, hname, htail⟩
    obtain ⟨rest, hend⟩ := Option.isSome_iff_exists.mp (isSome_nameEnd?.mpr htail)
    exact ⟨rest, defaultName?_eq_some.mpr ⟨_, _, _, _, hgap, hgap', hne, hname, htail.head?, hend, rfl⟩⟩

theorem nameList?_eq_some : nameList? s = some rest ↔ ∃ gap body tail, Blanks gap ∧ '\x7d' ∉ body ∧
    listEnd? tail = some rest ∧ s = "export".toList ++ (gap ++ '\x7b' :: (body ++ '\x7d' :: tail)) := by
  have hdef : nameList? s = (Text.after? "export".toList s).bind fun s =>
      (Text.after? ['\x7b'] (s.dropWhile isBlank)).bind fun s =>
        (Text.after? ['\x7d'] (s.dropWhile (· ≠ '\x7d'))).bind listEnd? := rfl
  simp only [hdef, Option.bind_eq_some_iff, Text.after?_eq_some]
  constructor
  · rintro ⟨r, rfl, r', hopen, tail, hclose, hend⟩
    refine ⟨r.takeWhile isBlank, r'.takeWhile (· ≠ '\x7d'), tail, takeWhile_blanks r, ?_, hend, ?_⟩
    · intro hmem
      have hpass := List.all_eq_true.mp (List.all_takeWhile (p := (· ≠ '\x7d'))) '\x7d' hmem
      exact absurd rfl (of_decide_eq_true hpass)
    · have hbody : r' = r'.takeWhile (· ≠ '\x7d') ++ '\x7d' :: tail := by
        rw [← List.singleton_append, ← hclose, List.takeWhile_append_dropWhile]
      rw [← hbody, ← List.singleton_append, ← hopen, List.takeWhile_append_dropWhile]
  · rintro ⟨gap, body, tail, hgap, hbody, hend, rfl⟩
    refine ⟨_, rfl, _, dropWhile_blanks hgap (by decide), tail, ?_, hend⟩
    refine (span_append (fun c hc => decide_eq_true ?_) fun c hc => ?_).2
    · rintro rfl
      exact hbody hc
    · obtain rfl := Option.some.inj hc
      decide

theorem isSome_nameList? : (nameList? s).isSome ↔ ExportsList s := by
  rw [Option.isSome_iff_exists]
  constructor
  · rintro ⟨rest, h⟩
    obtain ⟨gap, body, tail, hgap, hbody, hend, rfl⟩ := nameList?_eq_some.mp h
    exact .intro hgap ⟨body, tail, hbody, isSome_listEnd?.mp (Option.isSome_of_eq_some hend), rfl⟩
  · rintro ⟨hgap, body, tail, hbody, htail, rfl⟩
    obtain ⟨rest, hend⟩ := Option.isSome_iff_exists.mp (isSome_listEnd?.mpr htail)
    exact ⟨rest, nameList?_eq_some.mpr ⟨_, _, _, hgap, hbody, hend, rfl⟩⟩

theorem exists_lead (word : String) (s : List Char) : ∃ lead, IsLead word lead ∧ s = lead ++ skipWord word s := by
  unfold skipWord
  split
  · next r hafter =>
    cases hblanks : afterBlanks? r with
    | none => exact ⟨[], .absent, rfl⟩
    | some rest =>
      obtain ⟨gap, hgap, -, rfl⟩ := afterBlanks?_eq_some.mp hblanks
      exact ⟨word.toList ++ gap, .present hgap, by simpa using Text.after?_eq_some.mp hafter⟩
  · exact ⟨[], .absent, rfl⟩

/-- A word is skipped where one stands, and where something else does nothing is. -/
theorem skipWord_append {lead : List Char} (h : IsLead word lead)
    (hhead : ∀ c, rest.head? = some c → isBlank c = false) (hother : ¬word.toList <+: rest) :
    skipWord word (lead ++ rest) = rest := by
  unfold skipWord
  cases h with
  | absent =>
    cases hafter : Text.after? word.toList rest with
    | none => simp [hafter]
    | some r => exact absurd ⟨r, (Text.after?_eq_some.mp hafter).symm⟩ hother
  | @present gap hgap =>
    have hafter : Text.after? word.toList (word.toList ++ gap ++ rest) = some (gap ++ rest) := by
      rw [Text.after?_eq_some, List.append_assoc]
    have hblanks : afterBlanks? (gap ++ rest) = some rest := afterBlanks?_eq_some.mpr ⟨gap, hgap, hhead, rfl⟩
    simp only [hafter, hblanks, Option.getD_some]

theorem startsDeclaration_iff : startsDeclaration s = true ↔ ∃ word ∈ declarationWords, ∃ tail,
    (∀ c, tail.head? = some c → isWord c = false) ∧ s = word.toList ++ tail := by
  rw [startsDeclaration, List.any_eq_true]
  refine exists_congr fun word => and_congr_right fun _ => ?_
  simp only [← Text.after?_eq_some]
  cases Text.after? word.toList s with
  | none => simp
  | some r => cases r <;> simp

/-- A letter that begins a declaration: none that begins `async`, `default` or `export`, and no blank. -/
structure IsInitial (c : Char) : Prop where
  ne_default : c ≠ 'd'
  ne_export : c ≠ 'e'
  solid : isBlank c = false

theorem head?_declarationWord (hword : word ∈ declarationWords) (tail : List Char) :
    ∃ c, (word.toList ++ tail).head? = some c ∧ c ≠ 'a' ∧ IsInitial c := by
  simp only [declarationWords, List.mem_cons, List.not_mem_nil, or_false] at hword
  rcases hword with rfl | rfl | rfl | rfl | rfl
  · exact ⟨'c', rfl, by decide, by decide, by decide, by decide⟩
  · exact ⟨'f', rfl, by decide, by decide, by decide, by decide⟩
  · exact ⟨'c', rfl, by decide, by decide, by decide, by decide⟩
  · exact ⟨'l', rfl, by decide, by decide, by decide, by decide⟩
  · exact ⟨'v', rfl, by decide, by decide, by decide, by decide⟩

theorem IsDeclaration.head? (h : IsDeclaration s) : ∃ c, s.head? = some c ∧ IsInitial c := by
  obtain ⟨hlead, hword, -⟩ := h
  cases hlead with
  | present => exact ⟨'a', rfl, by decide, by decide, by decide⟩
  | absent =>
    obtain ⟨c, hhead, -, hc⟩ := head?_declarationWord hword _
    exact ⟨c, hhead, hc⟩

/-- A word is skipped before a text that begins otherwise. -/
theorem skipWord_of_head? {lead : List Char} {c d : Char} (h : IsLead word lead)
    (hd : word.toList.head? = some d) (hc : rest.head? = some c) (hne : c ≠ d) (hsolid : isBlank c = false) :
    skipWord word (lead ++ rest) = rest := by
  refine skipWord_append h (fun c' hc' => ?_) ?_
  · rw [hc] at hc'
    obtain rfl := Option.some.inj hc'
    exact hsolid
  · rintro ⟨r, rfl⟩
    rw [List.head?_append, hd] at hc
    exact hne (Option.some.inj hc).symm

theorem declaration?_eq_some : declaration? s = some rest ↔ ∃ gap lead, Gap gap ∧ IsLead "default" lead ∧
    IsDeclaration rest ∧ s = "export".toList ++ (gap ++ (lead ++ rest)) := by
  have hdef : declaration? s = (Text.after? "export".toList s).bind fun s => (afterBlanks? s).bind fun s =>
      if startsDeclaration (skipWord "async" (skipWord "default" s)) then some (skipWord "default" s)
      else none := rfl
  simp only [hdef, Option.bind_eq_some_iff, Text.after?_eq_some, afterBlanks?_eq_some]
  constructor
  · rintro ⟨_, rfl, r, ⟨gap, hgap, -, rfl⟩, h⟩
    split at h
    · next hstarts =>
      obtain rfl := Option.some.inj h
      obtain ⟨word, hword, tail, htail, hbody⟩ := startsDeclaration_iff.mp hstarts
      obtain ⟨lead, hlead, hr⟩ := exists_lead "default" r
      obtain ⟨lead', hlead', hrest⟩ := exists_lead "async" (skipWord "default" r)
      rw [hbody] at hrest
      refine ⟨gap, lead, hgap, hlead, ?_, by rw [← hr]⟩
      rw [hrest]
      exact .intro hlead' hword htail
    · cases h
  · rintro ⟨gap, lead, hgap, hlead, hrest, rfl⟩
    obtain ⟨d, hhead, hd⟩ := hrest.head?
    have hdefault := skipWord_of_head? hlead rfl hhead hd.ne_default hd.solid
    have hstarts : startsDeclaration (skipWord "async" rest) = true := by
      obtain ⟨hlead', hword, htail⟩ := hrest
      obtain ⟨c, hc, hne, hinitial⟩ := head?_declarationWord hword _
      rw [skipWord_of_head? hlead' rfl hc hne hinitial.solid]
      exact startsDeclaration_iff.mpr ⟨_, hword, _, htail, rfl⟩
    refine ⟨_, rfl, _, ⟨gap, hgap, fun c hc => ?_, rfl⟩, ?_⟩
    · cases hlead with
      | present =>
        obtain rfl := Option.some.inj hc
        decide
      | absent =>
        rw [List.nil_append, hhead] at hc
        obtain rfl := Option.some.inj hc
        exact hd.solid
    · rw [hdefault, if_pos hstarts]

theorem isSome_declaration? : (declaration? s).isSome ↔ ExportsDeclaration s := by
  rw [Option.isSome_iff_exists]
  constructor
  · rintro ⟨rest, h⟩
    obtain ⟨gap, lead, hgap, hlead, hrest, rfl⟩ := declaration?_eq_some.mp h
    exact .intro hgap hlead hrest
  · rintro ⟨hgap, hlead, hrest⟩
    exact ⟨_, declaration?_eq_some.mpr ⟨_, _, hgap, hlead, hrest, rfl⟩⟩

end Exports
end Storybind
