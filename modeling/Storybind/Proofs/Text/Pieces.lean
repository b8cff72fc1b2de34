import Mathlib.Data.List.TakeWhile
import Mathlib.Tactic
import Storybind.Text.Pieces

/-!
Finding fixed pieces, and cutting a text at a mark and joining it again.
-/

namespace Storybind.Text

theorem after?_eq_some {piece s rest : List Char} :
    after? piece s = some rest ↔ s = piece ++ rest := by
  induction piece generalizing s with
  | nil => simp [after?]
  | cons p ps ih =>
    cases s with
    | nil => simp [after?]
    | cons c cs =>
      by_cases hpc : p = c
      · simp [after?, hpc, ih]
      · simp [after?, hpc, Ne.symm hpc]

/-- A text can be cut at a piece exactly if the piece is part of it. -/
theorem cutAt?_isSome {piece s : List Char} : (cutAt? piece s).isSome = true ↔ piece <:+: s := by
  induction s with
  | nil => cases piece <;> simp [cutAt?]
  | cons c cs ih =>
    rw [List.infix_cons_iff, cutAt?]
    split
    · next rest hafter =>
      exact iff_of_true rfl (.inl ⟨rest, (after?_eq_some.mp hafter).symm⟩)
    · next hnone =>
      rw [Option.isSome_map, ih]
      refine (or_iff_right ?_).symm
      rintro ⟨rest, hrest⟩
      rw [after?_eq_some.mpr hrest.symm] at hnone
      cases hnone

/-- A text is cut at the first occurrence of a piece. -/
theorem cutAt?_first {piece s before rest : List Char} (h : cutAt? piece s = some (before, rest)) :
    s = before ++ (piece ++ rest) ∧ ∀ p, p <+: s → piece <:+ p → before ++ piece <+: p := by
  induction s generalizing before with
  | nil =>
    rw [cutAt?] at h
    split at h
    · next hempty =>
      obtain ⟨rfl, rfl⟩ := Prod.mk.inj (Option.some.inj h)
      obtain rfl := List.isEmpty_iff.mp hempty
      exact ⟨rfl, fun p _ _ => List.nil_prefix⟩
    · cases h
  | cons c cs ih =>
    rw [cutAt?] at h
    split at h
    · next r hafter =>
      obtain ⟨rfl, rfl⟩ := Prod.mk.inj (Option.some.inj h)
      have hs := after?_eq_some.mp hafter
      refine ⟨hs, fun p hp hpiece => ?_⟩
      exact List.prefix_of_prefix_length_le ⟨r, hs.symm⟩ hp hpiece.length_le
    · next hnone =>
      obtain ⟨⟨b, r⟩, hcut, heq⟩ := Option.map_eq_some_iff.mp h
      obtain ⟨rfl, rfl⟩ := Prod.mk.inj heq
      obtain ⟨hcs, hfirst⟩ := ih hcut
      -- the piece does not begin here, so each of its occurrences begins further on
      have hnot : ¬piece <+: c :: cs := by
        rintro ⟨r', hr'⟩
        rw [after?_eq_some.mpr hr'.symm] at hnone
        cases hnone
      refine ⟨congrArg (c :: ·) hcs, fun p hp hpiece => ?_⟩
      cases p with
      | nil =>
        rw [List.suffix_nil.mp hpiece] at hnot
        exact absurd List.nil_prefix hnot
      | cons d ds =>
        obtain ⟨rfl, hds⟩ := List.cons_prefix_cons.mp hp
        rcases List.suffix_cons_iff.mp hpiece with rfl | hpiece
        · exact absurd hp hnot
        · exact List.cons_prefix_cons.mpr ⟨rfl, hfirst ds hds hpiece⟩

/-- A text is cut at the first occurrence of a mark. -/
theorem cutAt?_append {mark : Char} {s : List Char} (h : mark ∉ s) (rest : List Char) :
    cutAt? [mark] (s ++ mark :: rest) = some (s, rest) := by
  induction s with
  | nil => simp [cutAt?, after?]
  | cons c cs ih =>
    obtain ⟨hc, hcs⟩ := List.ne_and_not_mem_of_not_mem_cons h
    have hnone : after? [mark] (c :: (cs ++ mark :: rest)) = none := by rw [after?, if_neg hc]
    rw [List.cons_append, cutAt?, hnone, ih hcs]
    rfl

/-- A text is cut at the last occurrence of a mark. -/
theorem cutAtLast?_append {mark : Char} (s : List Char) {rest : List Char} (h : mark ∉ rest) :
    cutAtLast? mark (s ++ mark :: rest) = some (s, rest) := by
  have hpass : ∀ c ∈ rest.reverse, (decide (c ≠ mark)) = true := by
    intro c hc
    have hne : c ≠ mark := fun hcm => h (hcm ▸ List.mem_reverse.mp hc)
    exact decide_eq_true hne
  have hreverse : (s ++ mark :: rest).reverse = rest.reverse ++ mark :: s.reverse := by simp
  rw [cutAtLast?, hreverse, List.takeWhile_append_of_pos hpass, List.dropWhile_append_of_pos hpass]
  simp

theorem cutAtLast?_of_not_mem {mark : Char} {s : List Char} (h : mark ∉ s) :
    cutAtLast? mark s = none := by
  have hpass : s.reverse.dropWhile (fun c => decide (c ≠ mark)) = [] := by
    refine List.dropWhile_eq_nil_iff.mpr fun c hc => ?_
    have hne : c ≠ mark := fun hcm => h (hcm ▸ List.mem_reverse.mp hc)
    exact decide_eq_true hne
  rw [cutAtLast?, hpass]

/-- A mark in a text has a last occurrence. -/
theorem exists_last_of_mem {mark : Char} {s : List Char} (h : mark ∈ s) :
    ∃ before rest, s = before ++ mark :: rest ∧ mark ∉ rest := by
  obtain ⟨rest, before, hs, hrest⟩ := List.eq_append_cons_of_mem (List.mem_reverse.mpr h)
  refine ⟨before.reverse, rest.reverse, ?_, by simpa using hrest⟩
  rw [← List.reverse_inj, hs]
  simp

theorem cutAtLast?_eq_some {mark : Char} {s before rest : List Char} :
    cutAtLast? mark s = some (before, rest) ↔ s = before ++ mark :: rest ∧ mark ∉ rest := by
  constructor
  · intro h
    by_cases hmark : mark ∈ s
    · obtain ⟨a, b, rfl, hb⟩ := exists_last_of_mem hmark
      rw [cutAtLast?_append a hb] at h
      obtain ⟨rfl, rfl⟩ := Prod.mk.inj (Option.some.inj h)
      exact ⟨rfl, hb⟩
    · rw [cutAtLast?_of_not_mem hmark] at h
      cases h
  · rintro ⟨rfl, hrest⟩
    exact cutAtLast?_append before hrest

theorem cutAtLast?_eq_none {mark : Char} {s : List Char} : cutAtLast? mark s = none ↔ mark ∉ s := by
  refine ⟨fun h hmark => ?_, cutAtLast?_of_not_mem⟩
  obtain ⟨a, b, rfl, hb⟩ := exists_last_of_mem hmark
  rw [cutAtLast?_append a hb] at h
  cases h

theorem splitChars_of_not_mem {mark : Char} {s : List Char} (h : mark ∉ s) :
    splitChars mark s = [s] := by
  induction s with
  | nil => rfl
  | cons c cs ih =>
    have hc : ¬c = mark := fun hc => h (hc ▸ List.mem_cons_self)
    rw [splitChars, if_neg hc, ih fun hmem => h (List.mem_cons_of_mem c hmem)]

theorem splitChars_append {mark : Char} {s : List Char} (rest : List Char) (h : mark ∉ s) :
    splitChars mark (s ++ mark :: rest) = s :: splitChars mark rest := by
  induction s with
  | nil => rw [List.nil_append, splitChars, if_pos rfl]
  | cons c cs ih =>
    have hc : ¬c = mark := fun hc => h (hc ▸ List.mem_cons_self)
    rw [List.cons_append, splitChars, if_neg hc, ih fun hmem => h (List.mem_cons_of_mem c hmem)]

/-- The mark is in none of the pieces it cuts. -/
theorem not_mem_of_mem_splitChars {mark : Char} {s p : List Char} (h : p ∈ splitChars mark s) :
    mark ∉ p := by
  induction s generalizing p with
  | nil =>
    obtain rfl : p = [] := by simpa [splitChars] using h
    exact List.not_mem_nil
  | cons c cs ih =>
    rw [splitChars] at h
    split at h
    · rcases List.mem_cons.mp h with rfl | h
      · exact List.not_mem_nil
      · exact ih h
    · next hc =>
      split at h
      · obtain rfl : p = [c] := by simpa using h
        simpa using fun hm : mark = c => hc hm.symm
      · next q qs hq =>
        rcases List.mem_cons.mp h with rfl | h
        · have hq' := ih (hq ▸ List.mem_cons_self)
          simpa using ⟨fun hm : mark = c => hc hm.symm, hq'⟩
        · exact ih (hq ▸ List.mem_cons_of_mem q h)

/-- Texts without the mark are what cutting their join gives back. -/
theorem split_join {mark : Char} {names : List String} (hne : names ≠ [])
    (h : ∀ n ∈ names, mark ∉ n.toList) :
    split mark (join (String.singleton mark) names) = names := by
  induction names with
  | nil => exact absurd rfl hne
  | cons n rest ih =>
    have hn := h n List.mem_cons_self
    cases rest with
    | nil =>
      rw [join, String.intercalate_singleton, split, splitChars_of_not_mem hn, List.map_singleton,
        String.ofList_toList]
    | cons m rest =>
      have hrest := ih (List.cons_ne_nil m rest) fun k hk => h k (List.mem_cons_of_mem n hk)
      rw [join, split] at hrest
      rw [join, String.intercalate_cons_cons, split]
      simp only [String.toList_append, String.toList_singleton, List.append_assoc,
        List.singleton_append]
      rw [splitChars_append _ hn, List.map_cons, String.ofList_toList, hrest]

theorem mem_join {c : Char} {names : List String} (hc : c ≠ '/') :
    c ∈ (join "/" names).toList ↔ ∃ n ∈ names, c ∈ n.toList := by
  have hslash : c ∉ "/".toList := fun h => hc (List.mem_singleton.mp h)
  unfold join
  induction names with
  | nil => simp
  | cons n rest ih =>
    cases rest with
    | nil => simp
    | cons m rest =>
      rw [List.exists_mem_cons_iff, String.intercalate_cons_cons, String.toList_append,
        String.toList_append, List.mem_append, List.mem_append]
      exact or_congr (or_iff_left hslash) ih

end Storybind.Text
