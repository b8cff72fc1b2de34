import Mathlib.Tactic
import Storybind.Dependency.Bundle

/-!
Declarations are put in order by a stable sort, and there is only one.
-/

namespace Storybind.Declaration

/-- The same declarations in ascending priority, those of one priority in the order they had. -/
structure IsStableSort (ds sorted : List Declaration) : Prop where
  perm : sorted.Perm ds
  ascending : sorted.Pairwise fun a b => a.priority ≤ b.priority
  stable : ∀ p, sorted.filter (fun d => d.priority = p) = ds.filter fun d => d.priority = p

variable {ds sorted sorted' : List Declaration}

/-- The order in which declarations are resolved is a stable sort. -/
theorem isStableSort_byPriority (ds : List Declaration) : IsStableSort ds (byPriority ds) := by
  have htrans : ∀ a b c : Declaration, decide (a.priority ≤ b.priority) →
      decide (b.priority ≤ c.priority) → decide (a.priority ≤ c.priority) := by
    simp only [decide_eq_true_eq]
    exact fun a b c hab hbc => Int.le_trans hab hbc
  have htotal : ∀ a b : Declaration,
      decide (a.priority ≤ b.priority) || decide (b.priority ≤ a.priority) := by
    simp only [Bool.or_eq_true, decide_eq_true_eq]
    exact fun a b => Int.le_total a.priority b.priority
  have hperm : (byPriority ds).Perm ds := List.mergeSort_perm ds _
  refine ⟨hperm, ?_, fun p => ?_⟩
  · exact (List.pairwise_mergeSort htrans htotal ds).imp of_decide_eq_true
  · have hflat : (ds.filter fun d => d.priority = p).Pairwise fun a b =>
        decide (a.priority ≤ b.priority) := by
      refine List.pairwise_of_forall_mem_list fun a ha b hb => ?_
      have hap := of_decide_eq_true (List.mem_filter.mp ha).2
      have hbp := of_decide_eq_true (List.mem_filter.mp hb).2
      exact decide_eq_true (hap.trans hbp.symm).le
    have hsub : (ds.filter fun d => d.priority = p).Sublist (byPriority ds) :=
      List.sublist_mergeSort htrans htotal hflat List.filter_sublist
    have hkept := hsub.filter fun d => d.priority = p
    rw [List.filter_filter] at hkept
    simp only [Bool.and_self] at hkept
    exact (hkept.eq_of_length ((hperm.filter _).length_eq).symm).symm

theorem eq_of_ascending (hperm : sorted.Perm sorted')
    (ha : sorted.Pairwise fun a b => a.priority ≤ b.priority)
    (ha' : sorted'.Pairwise fun a b => a.priority ≤ b.priority)
    (hs : ∀ p, sorted.filter (fun d => d.priority = p) = sorted'.filter fun d => d.priority = p) :
    sorted = sorted' := by
  induction sorted generalizing sorted' with
  | nil => exact hperm.nil_eq
  | cons a rest ih =>
    cases sorted' with
    | nil => exact absurd hperm.eq_nil (List.cons_ne_nil a rest)
    | cons b rest' =>
      have hab : a.priority ≤ b.priority := by
        rcases List.mem_cons.mp (hperm.mem_iff.mpr List.mem_cons_self) with h | h
        · rw [h]
        · exact (List.pairwise_cons.mp ha).1 b h
      have hba : b.priority ≤ a.priority := by
        rcases List.mem_cons.mp (hperm.mem_iff.mp List.mem_cons_self) with h | h
        · rw [h]
        · exact (List.pairwise_cons.mp ha').1 a h
      -- Both heads have the least priority, so they head what is kept of that priority.
      have hhead : a = b := by
        have h := hs a.priority
        rw [List.filter_cons_of_pos (by simp),
          List.filter_cons_of_pos (by simp [Int.le_antisymm hba hab])] at h
        exact (List.cons.inj h).1
      subst hhead
      refine congrArg (a :: ·) (ih hperm.cons_inv ha.of_cons ha'.of_cons fun p => ?_)
      have h := hs p
      by_cases hp : a.priority = p
      · rw [List.filter_cons_of_pos (by simp [hp]), List.filter_cons_of_pos (by simp [hp])] at h
        exact (List.cons.inj h).2
      · rwa [List.filter_cons_of_neg (by simp [hp]), List.filter_cons_of_neg (by simp [hp])] at h

/-- A list of declarations has one stable sort. -/
theorem IsStableSort.unique (h : IsStableSort ds sorted) (h' : IsStableSort ds sorted') :
    sorted = sorted' :=
  eq_of_ascending (h.perm.trans h'.perm.symm) h.ascending h'.ascending fun p =>
    (h.stable p).trans (h'.stable p).symm

end Storybind.Declaration
