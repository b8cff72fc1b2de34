import Mathlib.Tactic
import Storybind.Proofs.Text.Pieces

/-!
Replacing a piece of two characters: where it may be done part by part, and which pairs are gone
afterwards.
-/

namespace Storybind.Text

variable {a b : Char} {new s t : List Char}

/-- Replacement of a piece of two characters, two characters at a time. -/
def replacePair (a b : Char) (new : List Char) : List Char → List Char
  | [] => []
  | [c] => [c]
  | c :: d :: cs =>
    if c = a ∧ d = b then new ++ replacePair a b new cs else c :: replacePair a b new (d :: cs)

theorem after?_pair {c : Char} :
    after? [a, b] (c :: s) = if c = a ∧ s.head? = some b then some (s.drop 1) else none := by
  cases s with
  | nil =>
    by_cases hc : a = c
    · simp [after?, hc]
    · simp [after?, hc]
  | cons d cs =>
    by_cases hc : a = c
    · by_cases hd : b = d
      · simp [after?, hc, hd]
      · simp [after?, hc, hd, Ne.symm hd]
    · simp [after?, hc, Ne.symm hc]

theorem replaceChars_pair (a b : Char) (new s : List Char) :
    replaceChars [a, b] new s = replacePair a b new s := by
  unfold replaceChars
  induction s using replacePair.induct a b with
  | case1 => rfl
  | case2 c => simp [replaceFrom, replacePair, after?_pair]
  | case3 c d cs hpair ih =>
    obtain ⟨rfl, rfl⟩ := hpair
    simp [replaceFrom, replacePair, after?_pair, ih]
  | case4 c d cs hpair ih =>
    have hnone : after? [a, b] (c :: d :: cs) = none := by
      rw [after?_pair, if_neg]
      simpa using hpair
    rw [replaceFrom, hnone, replacePair, if_neg hpair]
    exact congrArg (c :: ·) ih

theorem replacePair_cons_of_ne {c : Char} (hc : c ≠ a) :
    replacePair a b new (c :: s) = c :: replacePair a b new s := by
  cases s with
  | nil => rfl
  | cons d cs => rw [replacePair, if_neg fun h => hc h.1]

/-- What holds no first character of the pair stays as it is. -/
theorem replacePair_append_of_not_mem (hs : a ∉ s) :
    replacePair a b new (s ++ t) = s ++ replacePair a b new t := by
  induction s with
  | nil => rfl
  | cons c cs ih =>
    have hc : c ≠ a := fun hc => hs (hc ▸ List.mem_cons_self)
    rw [List.cons_append, replacePair_cons_of_ne hc, ih fun h => hs (List.mem_cons_of_mem c h),
      List.cons_append]

theorem replacePair_of_not_mem (hs : a ∉ s) : replacePair a b new s = s := by
  rw [← List.append_nil s, replacePair_append_of_not_mem hs, replacePair]

/-- No pair is split between two parts of which the later does not begin with the second character of
the pair. -/
theorem replacePair_append (ht : t.head? ≠ some b) :
    replacePair a b new (s ++ t) = replacePair a b new s ++ replacePair a b new t := by
  induction s using replacePair.induct a b with
  | case1 => rfl
  | case2 c =>
    cases t with
    | nil => rfl
    | cons d cs =>
      have hpair : ¬(c = a ∧ d = b) := fun h => ht (by rw [h.2]; rfl)
      have hstep : replacePair a b new (c :: d :: cs) = c :: replacePair a b new (d :: cs) := by
        rw [replacePair, if_neg hpair]
      exact hstep
  | case3 c d cs hpair ih =>
    rw [List.cons_append, List.cons_append, replacePair, if_pos hpair, replacePair, if_pos hpair, ih,
      List.append_assoc]
  | case4 c d cs hpair ih =>
    rw [List.cons_append, List.cons_append, replacePair, if_neg hpair, replacePair, if_neg hpair,
      ← List.cons_append, ih, List.cons_append]

theorem head?_replacePair (hnew : new.head? = some a) :
    (replacePair a b new s).head? = s.head? := by
  cases s with
  | nil => rfl
  | cons c s =>
    cases s with
    | nil => rfl
    | cons d cs =>
      rw [replacePair]
      split
      · next hpair => rw [List.head?_append, hnew, hpair.1]; rfl
      · rfl

/-- Whether two characters stand side by side in a text. -/
def HasPair (a b : Char) (s : List Char) : Prop := [a, b] <:+: s

theorem hasPair_cons {c : Char} :
    HasPair a b (c :: s) ↔ c = a ∧ s.head? = some b ∨ HasPair a b s := by
  unfold HasPair
  rw [List.infix_cons_iff]
  refine or_congr_left ?_
  cases s with
  | nil => simp [List.cons_prefix_cons]
  | cons d cs => simp [List.cons_prefix_cons, eq_comm]

theorem not_hasPair_of_not_mem (hs : a ∉ s) : ¬HasPair a b s :=
  fun h => hs (h.subset List.mem_cons_self)

theorem hasPair_append (hs : a ∉ s) : HasPair a b (s ++ t) ↔ HasPair a b t := by
  induction s with
  | nil => rfl
  | cons c cs ih =>
    have hc : c ≠ a := fun hc => hs (hc ▸ List.mem_cons_self)
    rw [List.cons_append, hasPair_cons, ih fun h => hs (List.mem_cons_of_mem c h)]
    simp [hc]

/-- Where the later of two texts does not begin with the second character, a pair stands in one of them. -/
theorem hasPair_append_iff (hhead : t.head? ≠ some b) :
    HasPair a b (s ++ t) ↔ HasPair a b s ∨ HasPair a b t := by
  induction s with
  | nil => simp [HasPair]
  | cons c cs ih =>
    rw [List.cons_append, hasPair_cons, hasPair_cons, ih, or_assoc]
    refine or_congr_left ?_
    cases cs with
    | nil => simp [hhead]
    | cons d ds => rfl

/-- A text without its first character that does not begin with the second adds no pair. -/
theorem hasPair_append_of_head? (ht : a ∉ t) (hhead : t.head? ≠ some b) :
    HasPair a b (s ++ t) ↔ HasPair a b s :=
  (hasPair_append_iff hhead).trans (or_iff_left (not_hasPair_of_not_mem ht))

/-- The pair is gone where what takes its place keeps its first character away from the second. -/
theorem not_hasPair_replacePair {x : Char} {rest : List Char} (hx : x ≠ b)
    (ha : a ∉ x :: rest) : ¬HasPair a b (replacePair a b (a :: x :: rest) s) := by
  induction s using replacePair.induct a b with
  | case1 => exact not_hasPair_of_not_mem List.not_mem_nil
  | case2 c => simp [replacePair, hasPair_cons, not_hasPair_of_not_mem]
  -- a pair is gone, and the text that takes its place begins with the same character
  | case3 c d cs hpair ih =>
    rw [replacePair, if_pos hpair, List.cons_append, hasPair_cons, hasPair_append ha]
    simpa [hx] using ih
  | case4 c d cs hpair ih =>
    rw [replacePair, if_neg hpair, hasPair_cons, head?_replacePair rfl]
    simpa using ⟨fun hc hd => hpair ⟨hc, hd⟩, ih⟩

/-- No other pair comes about where what takes the place of one keeps its first character and does not
hold that of the other. -/
theorem not_hasPair_replacePair_of_not_mem {p q : Char} (hp : p ∉ a :: new)
    (hs : ¬HasPair p q s) : ¬HasPair p q (replacePair a b (a :: new) s) := by
  induction s using replacePair.induct a b with
  | case1 => exact hs
  | case2 c => exact hs
  | case3 c d cs hpair ih =>
    rw [replacePair, if_pos hpair, hasPair_append hp]
    refine ih fun h => hs ?_
    rw [hasPair_cons, hasPair_cons]
    exact Or.inr (Or.inr h)
  | case4 c d cs hpair ih =>
    rw [hasPair_cons, not_or] at hs
    rw [replacePair, if_neg hpair, hasPair_cons, head?_replacePair rfl]
    exact not_or.mpr ⟨hs.1, ih hs.2⟩

end Storybind.Text
