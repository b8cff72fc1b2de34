import Mathlib.Data.List.DropRight
import Mathlib.Tactic
import Storybind.Text.Pieces

/-!
Texts that trimming leaves as they are: no blank stands at either end.
-/

namespace Storybind.Text

/-- No blank stands at either end of a text. -/
structure Trimmed (s : List Char) : Prop where
  head : ∀ c, s.head? = some c → isBlank c = false
  last : ∀ c, s.getLast? = some c → isBlank c = false

variable {s t : List Char} {c : Char}

theorem dropWhile_blank_eq_self :
    s.dropWhile isBlank = s ↔ ∀ c, s.head? = some c → isBlank c = false := by
  cases s with
  | nil => simp
  | cons c cs =>
    rw [List.dropWhile_cons]
    cases hc : isBlank c with
    | false => simp [hc]
    | true =>
      have hshort : (cs.dropWhile isBlank).length ≤ cs.length := (List.dropWhile_suffix _).length_le
      refine iff_of_false (fun h => ?_) (fun h => absurd (h c rfl) (by rw [hc]; decide))
      have hlength := congrArg List.length h
      rw [if_pos rfl, List.length_cons] at hlength
      omega

theorem trimChars_eq_self : trimChars s = s ↔ Trimmed s := by
  constructor
  · intro h
    -- a text that is as long as before has lost nothing at either end
    have hleft : (s.dropWhile isBlank).length ≤ s.length := (List.dropWhile_suffix _).length_le
    have hright : (trimChars s).length ≤ (s.dropWhile isBlank).length :=
      (List.rdropWhile_prefix isBlank (s.dropWhile isBlank)).length_le
    have hhead : s.dropWhile isBlank = s := by
      rw [h] at hright
      exact (List.dropWhile_suffix _).eq_of_length (by omega)
    refine ⟨dropWhile_blank_eq_self.mp hhead, fun c hc => ?_⟩
    have hlast : (s.reverse.dropWhile isBlank).reverse = s := by
      rw [trimChars, trimLeftWhere, hhead] at h
      exact h
    have hreverse := dropWhile_blank_eq_self.mp (List.reverse_eq_iff.mp hlast)
    exact hreverse c (by rw [List.head?_reverse]; exact hc)
  · intro h
    have hlast : s.reverse.dropWhile isBlank = s.reverse :=
      dropWhile_blank_eq_self.mpr fun c hc => h.last c (by rw [← List.head?_reverse]; exact hc)
    rw [trimChars, trimLeftWhere, dropWhile_blank_eq_self.mpr h.head, trimRightWhere, hlast,
      List.reverse_reverse]

theorem trim_eq_self {s : String} : trim s = s ↔ Trimmed s.toList := by
  rw [trim, ← trimChars_eq_self, ← String.toList_inj, String.toList_ofList]

/-- Nothing is left of blanks, and of nothing else. -/
theorem trimChars_eq_nil : trimChars s = [] ↔ ∀ c ∈ s, isBlank c = true := by
  rw [← List.dropWhile_eq_nil_iff]
  constructor
  · intro hempty
    have hblank : ∀ c ∈ s.dropWhile isBlank, isBlank c = true := List.rdropWhile_eq_nil_iff.mp hempty
    -- what stands first after the blanks is none
    cases hdrop : s.dropWhile isBlank with
    | nil => rfl
    | cons c cs =>
      have hc := List.head_dropWhile_not isBlank (by rw [hdrop]; exact List.cons_ne_nil c cs)
      rw [hblank _ (List.head_mem _)] at hc
      cases hc
  · intro hdrop
    rw [trimChars, trimLeftWhere, hdrop]
    rfl

theorem trim_eq_empty {s : String} : trim s = "" ↔ ∀ c ∈ s.toList, isBlank c = true := by
  rw [← trimChars_eq_nil, ← String.toList_eq_nil_iff, trim, String.toList_ofList]

theorem trimChars_infix (s : List Char) : trimChars s <:+: s :=
  (List.rdropWhile_prefix isBlank (s.dropWhile isBlank)).isInfix.trans
    (List.dropWhile_suffix isBlank).isInfix

/-- Trimming takes blanks away at both ends. -/
theorem exists_trimChars (s : List Char) : ∃ lead trail, (∀ c ∈ lead, isBlank c = true) ∧
    (∀ c ∈ trail, isBlank c = true) ∧ s = lead ++ (trimChars s ++ trail) := by
  have hlead : ∀ c ∈ s.takeWhile isBlank, isBlank c = true :=
    fun c hc => List.all_eq_true.mp List.all_takeWhile c hc
  refine ⟨s.takeWhile isBlank, (s.dropWhile isBlank).rtakeWhile isBlank, hlead, ?_, ?_⟩
  · exact fun c hc => List.mem_rtakeWhile_imp hc
  · have hsplit : trimChars s ++ (s.dropWhile isBlank).rtakeWhile isBlank = s.dropWhile isBlank :=
      List.rdropWhile_append_rtakeWhile
    rw [hsplit, List.takeWhile_append_dropWhile]

theorem trim_infix (s : String) : (trim s).toList <:+: s.toList := by
  rw [trim, String.toList_ofList]
  exact trimChars_infix s.toList

/-- Trimming leaves no blank at either end. -/
theorem trimmed_trimChars (s : List Char) : Trimmed (trimChars s) := by
  constructor
  · intro c hc
    obtain ⟨rest, hrest⟩ := List.rdropWhile_prefix isBlank (s.dropWhile isBlank)
    have hhead : c ∈ (s.dropWhile isBlank).head? := by
      rw [← hrest]
      exact List.mem_head?_append_of_mem_head? hc
    exact dropWhile_blank_eq_self.mp (List.dropWhile_idempotent isBlank s) c hhead
  · intro c hc
    rw [← List.head?_reverse, trimChars, trimRightWhere, List.reverse_reverse] at hc
    exact dropWhile_blank_eq_self.mp (List.dropWhile_idempotent isBlank _) c hc

theorem trim_trim (s : String) : trim (trim s) = trim s := by
  rw [trim_eq_self, trim, String.toList_ofList]
  exact trimmed_trimChars s.toList

theorem Trimmed.nil : Trimmed [] := ⟨nofun, nofun⟩

theorem trimmed_of_forall (h : ∀ c ∈ s, isBlank c = false) : Trimmed s :=
  ⟨fun c hc => h c (List.mem_of_mem_head? hc), fun c hc => h c (List.mem_of_getLast? hc)⟩

theorem Trimmed.append (hs : Trimmed s) (ht : Trimmed t) : Trimmed (s ++ t) := by
  cases s with
  | nil => exact ht
  | cons a as =>
    cases t with
    | nil =>
      rw [List.append_nil]
      exact hs
    | cons b bs =>
      refine ⟨fun c hc => hs.head c hc, fun c hc => ht.last c ?_⟩
      rwa [List.getLast?_append_of_ne_nil _ (List.cons_ne_nil b bs)] at hc

end Storybind.Text
