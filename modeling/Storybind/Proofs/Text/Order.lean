import Mathlib.Data.String.Basic
import Mathlib.Tactic
import Storybind.Proofs.Distinct
import Storybind.Text.Pieces

/-!
Code point order is the order of texts, and texts sorted once each are in strictly ascending order.
-/

namespace Storybind.Text

theorem charsLt_iff {a b : List Char} : charsLt a b = true ↔ a < b := by
  induction a generalizing b with
  | nil =>
    cases b with
    | nil => simp [charsLt]
    | cons c cs => simp [charsLt]
  | cons c cs ih =>
    cases b with
    | nil => simp [charsLt]
    | cons d ds =>
      have hlt (x y : Char) : x < y ↔ x.toNat < y.toNat := Iff.rfl
      have heq : c = d ↔ c.toNat = d.toNat := Char.toNat_inj.symm
      rw [List.cons_lt_cons_iff, hlt, heq, charsLt]
      -- the first characters that differ decide
      split
      · next hless => exact iff_of_true rfl (Or.inl hless)
      · split
        · next hless hmore => exact iff_of_false Bool.false_ne_true (by omega)
        · next hless hmore =>
          have hsame : c.toNat = d.toNat := by omega
          rw [ih]
          simp [hsame]

theorem le_iff {a b : String} : le a b = true ↔ a ≤ b := by
  rw [le, Bool.not_eq_true', ← Bool.not_eq_true, charsLt_iff, ← String.lt_iff, not_lt]

theorem pairwise_sort (xs : List String) : (sort xs).Pairwise (· ≤ ·) := by
  have htrans : ∀ a b c : String, le a b = true → le b c = true → le a c = true := by
    simp only [le_iff]
    exact fun a b c hab hbc => hab.trans hbc
  have htotal : ∀ a b : String, (le a b || le b a) = true := by
    simp only [Bool.or_eq_true, le_iff]
    exact fun a b => le_total a b
  exact (List.pairwise_mergeSort htrans htotal xs).imp fun {a b} h => le_iff.mp h

/-- Sorted without repetitions, texts ascend strictly. -/
theorem pairwise_sort_eraseDups (xs : List String) : (sort xs.eraseDups).Pairwise (· < ·) := by
  have hnodup : (sort xs.eraseDups).Nodup :=
    ((List.mergeSort_perm _ _).nodup_iff).mpr (Distinct.nodup_eraseDups xs)
  exact (pairwise_sort _).imp₂ (fun _ _ hle hne => lt_of_le_of_ne hle hne) hnodup

theorem mem_sort_eraseDups {xs : List String} {x : String} : x ∈ sort xs.eraseDups ↔ x ∈ xs :=
  List.mem_mergeSort.trans List.mem_eraseDups

end Storybind.Text
