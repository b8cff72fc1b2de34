import Mathlib.Tactic
import Storybind.Proofs.Script.Grammar
import Storybind.Proofs.Script.Mounting

/-!
The tokens of a text: one for every start of a directive, in order. A start with a whole directive gives
that directive, any other one gives the text up to the next closing braces.
-/

namespace Storybind.Directive

variable {f : Fields} {s : List Char} {t : DirectiveToken} {d : Directive} {n position : Nat}

/-! ### Extents -/

/-- Whether a text reaches up to and with the first closing braces of another one, or is all of it if
there are none. -/
def IsExtent (text s : List Char) : Prop :=
  (text <+: s ∧ closing <:+ text ∧ ∀ p, p <+: s → closing <:+ p → text <+: p) ∨
    (¬closing <:+: s ∧ text = s)

theorem isExtent_iff {text : List Char} : IsExtent text s ↔ text = extent s := by
  unfold extent
  cases hcut : Text.cutAt? closing s with
  | none =>
    have hno : ¬closing <:+: s := by
      rw [← Text.cutAt?_isSome, hcut]
      exact Bool.false_ne_true
    refine ⟨?_, fun h => .inr ⟨hno, h⟩⟩
    rintro (⟨hbegin, hend, -⟩ | ⟨-, rfl⟩)
    · exact absurd (hend.isInfix.trans hbegin.isInfix) hno
    · rfl
  | some r =>
    obtain ⟨before, rest⟩ := r
    obtain ⟨hs, hfirst⟩ := Text.cutAt?_first hcut
    have hbegin : before ++ closing <+: s := ⟨rest, by rw [hs, List.append_assoc]⟩
    have hend : closing <:+ before ++ closing := List.suffix_append before closing
    simp only
    constructor
    · rintro (⟨htext, hclosed, hleast⟩ | ⟨hno, -⟩)
      · have hlong := hfirst text htext hclosed
        exact (hleast _ hbegin hend).eq_of_length_le hlong.length_le
      · exact absurd (hend.isInfix.trans hbegin.isInfix) hno
    · rintro rfl
      exact .inl ⟨hbegin, hend, hfirst⟩

/-! ### The token at a position -/

/-- Whether a directive with given fields stands at a position of a text. -/
def StandsAt (s : List Char) (n : Nat) (f : Fields) (w : List Char) : Prop :=
  IsWritten f w ∧ w <+: s.drop n

theorem starts_iff : Starts s ↔ ∃ rest, afterStart? s = some rest := by
  constructor
  · rintro ⟨t, ht, rest, rfl⟩
    exact ⟨rest, afterStart?_append ht rest⟩
  · rintro ⟨rest, h⟩
    obtain ⟨t, ht, rfl⟩ := afterStart?_eq_some.mp h
    exact ⟨t, ht, List.prefix_append t rest⟩

theorem IsWritten.starts {w : List Char} (h : IsWritten f w) (hw : w <+: s) : Starts s := by
  cases h with
  | @intro start rest hstart hrest => exact ⟨start, hstart, (List.prefix_append start rest).trans hw⟩

theorem isWritten_iff {rest : List Char} (h : afterStart? s = some rest) :
    (∃ w, IsWritten f w ∧ w <+: s) ↔ ∃ r, fields? rest = some (f, r) := by
  obtain ⟨start, hstart, rfl⟩ := afterStart?_eq_some.mp h
  constructor
  · rintro ⟨w, ⟨hstart', hfields⟩, r, heq⟩
    rw [List.append_assoc] at heq
    obtain ⟨rfl, rfl⟩ := hstart'.unique hstart heq
    exact ⟨r, fields?_append hfields r⟩
  · rintro ⟨r, hread⟩
    obtain ⟨w, hw, rfl⟩ := fields?_eq_some.mp hread
    exact ⟨start ++ w, .intro hstart hw, r, List.append_assoc start w r⟩

theorem tokenAt?_directive : tokenAt? n s = some (.directive d) ↔
    ∃ f w, IsWritten f w ∧ w <+: s ∧ d = f.directive n := by
  constructor
  · intro h
    obtain ⟨rest, hafter, htoken⟩ := Option.map_eq_some_iff.mp h
    rw [read?_eq] at htoken
    cases hread : fields? rest with
    | none => simp [hread] at htoken
    | some r =>
      obtain ⟨f, r⟩ := r
      obtain ⟨w, hw, hbegin⟩ := (isWritten_iff hafter).mpr ⟨r, hread⟩
      rw [hread] at htoken
      exact ⟨f, w, hw, hbegin, (DirectiveToken.directive.inj htoken).symm⟩
  · rintro ⟨f, w, hw, hbegin, rfl⟩
    obtain ⟨rest, hafter⟩ := starts_iff.mp (hw.starts hbegin)
    obtain ⟨r, hread⟩ := (isWritten_iff hafter).mp ⟨w, hw, hbegin⟩
    rw [tokenAt?, hafter, Option.map_some, read?_eq, hread]
    rfl

theorem tokenAt?_malformed {m : Nat} {text : String} : tokenAt? n s = some (.malformed text m) ↔
    m = n ∧ Starts s ∧ (∀ f w, IsWritten f w → ¬w <+: s) ∧ IsExtent text.toList s := by
  rw [isExtent_iff, ← String.ofList_inj, String.ofList_toList]
  constructor
  · intro h
    obtain ⟨rest, hafter, htoken⟩ := Option.map_eq_some_iff.mp h
    rw [read?_eq] at htoken
    cases hread : fields? rest with
    | some r => simp [hread] at htoken
    | none =>
      rw [hread] at htoken
      obtain ⟨rfl, rfl⟩ := DirectiveToken.malformed.inj htoken
      refine ⟨rfl, starts_iff.mpr ⟨rest, hafter⟩, fun f w hw hbegin => ?_, rfl⟩
      obtain ⟨r, hsome⟩ := (isWritten_iff hafter).mp ⟨w, hw, hbegin⟩
      rw [hread] at hsome
      cases hsome
  · rintro ⟨rfl, hstarts, hnone, rfl⟩
    obtain ⟨rest, hafter⟩ := starts_iff.mp hstarts
    have hread : fields? rest = none := by
      cases hread : fields? rest with
      | none => rfl
      | some r =>
        obtain ⟨w, hw, hbegin⟩ := (isWritten_iff hafter).mpr ⟨r.2, hread⟩
        exact absurd hbegin (hnone r.1 w hw)
    rw [tokenAt?, hafter, Option.map_some, read?_eq, hread]
    rfl

/-! ### All positions -/

theorem mem_findFrom_cons {c : Char} : t ∈ findFrom position (c :: s) ↔
    tokenAt? position (c :: s) = some t ∨ t ∈ findFrom (position + 1) s := by
  rw [findFrom]
  cases tokenAt? position (c :: s) with
  | none => simp
  | some u => simp [eq_comm]

theorem mem_findFrom : t ∈ findFrom position s ↔
    position ≤ t.start ∧ tokenAt? t.start (s.drop (t.start - position)) = some t := by
  induction s generalizing position with
  | nil => simp [findFrom, tokenAt?, afterStart?, Text.after?, opening]
  | cons c cs ih =>
    rw [mem_findFrom_cons, ih]
    constructor
    · rintro (h | ⟨hle, h⟩)
      · have hstart := start_of_tokenAt? h
        refine ⟨hstart.ge, ?_⟩
        rw [hstart, Nat.sub_self]
        exact h
      · refine ⟨by omega, ?_⟩
        rwa [show t.start - position = t.start - (position + 1) + 1 by omega, List.drop_succ_cons]
    · rintro ⟨hle, h⟩
      rcases hle.eq_or_lt with heq | hlt
      · rw [← heq, Nat.sub_self] at h
        exact .inl h
      · refine .inr ⟨hlt, ?_⟩
        rwa [show t.start - position = t.start - (position + 1) + 1 by omega,
          List.drop_succ_cons] at h

theorem mem_find {text : String} :
    t ∈ find text ↔ tokenAt? t.start (text.toList.drop t.start) = some t := by
  rw [find, mem_findFrom]
  simp

theorem pairwise_findFrom : (findFrom position s).Pairwise fun t u => t.start < u.start := by
  induction s generalizing position with
  | nil => exact List.Pairwise.nil
  | cons c cs ih =>
    rw [findFrom]
    split
    · next u hu =>
      refine List.Pairwise.cons (fun t ht => ?_) ih
      have hlater := le_start_of_mem_findFrom ht
      have hstart := start_of_tokenAt? hu
      omega
    · exact ih

/-! ### The tokens of a text -/

/-- One token for every start of a directive, in order: the directive that stands there, or else the text
from there up to and with the next closing braces. -/
structure Tokenizes (s : List Char) (tokens : List DirectiveToken) : Prop where
  ordered : tokens.Pairwise fun t u => t.start < u.start
  starts : ∀ n, (∃ t ∈ tokens, t.start = n) ↔ Starts (s.drop n)
  directive : ∀ d, .directive d ∈ tokens ↔ ∃ f w, StandsAt s d.start f w ∧ d = f.directive d.start
  malformed : ∀ text n, .malformed text n ∈ tokens ↔
    Starts (s.drop n) ∧ (∀ f w, ¬StandsAt s n f w) ∧ IsExtent text.toList (s.drop n)

theorem exists_token (h : Starts s) (n : Nat) : ∃ t, tokenAt? n s = some t := by
  obtain ⟨rest, hafter⟩ := starts_iff.mp h
  rw [tokenAt?, hafter]
  exact ⟨_, rfl⟩

theorem tokenizes_find (text : String) : Tokenizes text.toList (find text) where
  ordered := pairwise_findFrom
  starts n := by
    constructor
    · rintro ⟨t, ht, rfl⟩
      obtain ⟨rest, hafter, -⟩ := Option.map_eq_some_iff.mp (mem_find.mp ht)
      exact starts_iff.mpr ⟨rest, hafter⟩
    · intro h
      obtain ⟨t, ht⟩ := exists_token h n
      have hstart := start_of_tokenAt? ht
      refine ⟨t, mem_find.mpr ?_, hstart⟩
      rw [hstart]
      exact ht
  directive d := by
    rw [mem_find]
    simp only [DirectiveToken.start, tokenAt?_directive, StandsAt, and_assoc]
  malformed text n := by
    rw [mem_find]
    simp only [DirectiveToken.start, tokenAt?_malformed, StandsAt, true_and, not_and]

theorem StandsAt.unique {g : Fields} {w v : List Char} (h : StandsAt s n f w) (h' : StandsAt s n g v) :
    f = g ∧ w = v :=
  h.1.unique h'.1 h.2 h'.2

/-- Behind the beginning of a directive the next start stands behind its end. -/
theorem StandsAt.length_le {w : List Char} {m : Nat} (h : StandsAt s n f w) (hnm : n < m)
    (hstarts : Starts (s.drop m)) : n + w.length ≤ m :=
  length_le_of_starts h.2 h.1.startless hnm hstarts

theorem StandsAt.disjoint {g : Fields} {w v : List Char} {m : Nat} (h : StandsAt s n f w)
    (h' : StandsAt s m g v) (hne : n ≠ m) : n + w.length ≤ m ∨ m + v.length ≤ n := by
  rcases Nat.lt_or_gt_of_ne hne with hlt | hlt
  · exact .inl (h.length_le hlt (h'.1.starts h'.2))
  · exact .inr (h'.length_le hlt (h.1.starts h.2))

/-- A text without the word for components has no start of a directive. -/
theorem not_starts_of_not_infix {n : Nat} (h : ¬"component".toList <:+: s) : ¬Starts (s.drop n) := by
  rintro ⟨t, ⟨hgap, hspace, hne, hq, hq'⟩, hbegin⟩
  refine h (List.IsInfix.trans ?_ (hbegin.isInfix.trans (List.drop_suffix n s).isInfix))
  exact ⟨_, _, by rw [List.append_assoc, List.append_assoc]⟩

/-- The text of a directive has that directive as its only token. -/
theorem find_of_isWritten {w : List Char} (h : IsWritten f w) :
    find (String.ofList w) = [.directive (f.directive 0)] := by
  have htokens := tokenizes_find (String.ofList w)
  rw [String.toList_ofList] at htokens
  have hstands : StandsAt w 0 f w := ⟨h, List.prefix_rfl⟩
  -- no token starts inside a directive, so all of them start where it does
  have hfirst : ∀ t ∈ find (String.ofList w), t.start = 0 := by
    intro t ht
    by_contra hne
    have hstarts := (htokens.starts t.start).mp ⟨t, ht, rfl⟩
    have hle := hstands.length_le (Nat.pos_of_ne_zero hne) hstarts
    rw [Nat.zero_add] at hle
    rw [List.drop_of_length_le hle] at hstarts
    obtain ⟨start, hstart, hbegin⟩ := hstarts
    exact hstart.ne_nil (List.prefix_nil.mp hbegin)
  have hmem := (htokens.directive (f.directive 0)).mpr ⟨f, w, hstands, rfl⟩
  have hordered := htokens.ordered
  cases hfind : find (String.ofList w) with
  | nil =>
    rw [hfind] at hmem
    cases hmem
  | cons t ts =>
    cases ts with
    | nil =>
      rw [hfind] at hmem
      rw [List.mem_singleton.mp hmem]
    | cons u ts =>
      rw [hfind] at hordered hfirst
      have hlt := List.rel_of_pairwise_cons hordered List.mem_cons_self
      have hu := hfirst u (List.mem_cons_of_mem t List.mem_cons_self)
      omega

/-- Every start of a directive in a text gives one token, in order, and those that a whole directive
stands at give the directive. A directive stands at a position in one way only, nothing starts within
what it takes up, so directives do not overlap, and neither do their starts. A text without the word for
components has no tokens and need not be looked through. -/
theorem find_tokens (text : String) :
    Tokenizes text.toList (find text) ∧
    (∀ n f w g v, StandsAt text.toList n f w → StandsAt text.toList n g v → f = g ∧ w = v) ∧
    (∀ n f w m g v, StandsAt text.toList n f w → StandsAt text.toList m g v → n ≠ m →
      n + w.length ≤ m ∨ m + v.length ≤ n) ∧
    (∀ n m start, IsStart start → start <+: text.toList.drop n → n < m →
      Starts (text.toList.drop m) → n + start.length ≤ m) ∧
    (Text.contains text "component" = false → find text = []) := by
  refine ⟨tokenizes_find text, ?_, ?_, ?_, ?_⟩
  · intro n f w g v h h'
    exact h.unique h'
  · intro n f w m g v h h' hne
    exact h.disjoint h' hne
  · intro n m start hstart hbegin hnm hstarts
    exact length_le_of_starts hbegin hstart.startless hnm hstarts
  · intro hword
    have hinfix : ¬"component".toList <:+: text.toList := by
      rw [← Text.cutAt?_isSome]
      exact Bool.eq_false_iff.mp hword
    refine List.eq_nil_iff_forall_not_mem.mpr fun t ht => ?_
    exact not_starts_of_not_infix hinfix (((tokenizes_find text).starts t.start).mp ⟨t, ht, rfl⟩)

end Storybind.Directive
