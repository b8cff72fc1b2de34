import Mathlib.Tactic
import Storybind.Script.Instruction

/-!
The texts of an instruction are walked through in two ways: once with branches that are a single
instruction, and once without them. Here one walk marks the texts that only the first of the two
comes to.
-/

namespace Storybind.Instruction

mutual

/-- The texts of an instruction, each marked if it stands in a branch that is a single instruction.
`lone` says so of the instruction itself. -/
def marked (lone : Bool) : Value → List (Bool × String × String)
  | .scalar (.text s) => [(lone, "text", s)]
  | .mapping _ entries =>
    (ownTexts entries).map (lone, ·) ++ markedBranch lone "then" entries ++
      markedBranch lone "else" entries
  | _ => []

def markedBranch (lone : Bool) (name : String) :
    List (Scalar × Value) → List (Bool × String × String)
  | [] => []
  | (k, .list _ items) :: rest =>
    if k.sameKey (.text name) then markedItems lone items else markedBranch lone name rest
  | (k, v) :: rest =>
    if k.sameKey (.text name) then marked true v else markedBranch lone name rest

def markedItems (lone : Bool) : List Value → List (Bool × String × String)
  | [] => []
  | v :: rest => marked lone v ++ markedItems lone rest

end

/-- The texts that stand in branches that are a single instruction. -/
def loneTexts (v : Value) : List (String × String) := ((marked false v).filter (·.1)).map Prod.snd

/-- Marked texts, all of them and those without a mark. -/
structure Splits (marks : List (Bool × String × String)) (all unmarked : List (String × String)) :
    Prop where
  all_eq : marks.map Prod.snd = all
  unmarked_eq : (marks.filter (!·.1)).map Prod.snd = unmarked

namespace Splits

variable {marks marks' : List (Bool × String × String)}
  {all all' unmarked unmarked' : List (String × String)}

theorem nil : Splits [] [] [] := ⟨rfl, rfl⟩

theorem append (h : Splits marks all unmarked) (h' : Splits marks' all' unmarked') :
    Splits (marks ++ marks') (all ++ all') (unmarked ++ unmarked') where
  all_eq := by rw [List.map_append, h.all_eq, h'.all_eq]
  unmarked_eq := by rw [List.filter_append, List.map_append, h.unmarked_eq, h'.unmarked_eq]

theorem own (lone : Bool) (ts : List (String × String)) :
    Splits (ts.map (lone, ·)) ts (if lone then [] else ts) where
  all_eq := by
    rw [List.map_map]
    exact List.map_id ts
  unmarked_eq := by
    cases lone with
    | true => simp
    | false =>
      have hall : (ts.map (false, ·)).filter (!·.1) = ts.map (false, ·) := by simp
      rw [hall, List.map_map]
      exact List.map_id ts

theorem flatMap_eq {β : Type} (h : Splits marks all unmarked) {f : String × String → List β}
    (hf : ∀ t ∈ unmarked, f t = []) :
    all.flatMap f = ((marks.filter (·.1)).map Prod.snd).flatMap f := by
  -- texts without a mark give nothing and can be left out one by one
  obtain ⟨rfl, rfl⟩ := h
  induction marks with
  | nil => rfl
  | cons m marks ih =>
    obtain ⟨mark, t⟩ := m
    cases mark with
    | true =>
      have hrest := ih hf
      simp only [List.map_cons, List.flatMap_cons, List.filter_cons, if_true] at hrest ⊢
      rw [hrest]
    | false =>
      have ht : f t = [] := hf t (by simp)
      have hrest := ih fun u hu => hf u (by simpa using .inr (by simpa using hu))
      simp only [List.map_cons, List.flatMap_cons, ht, List.nil_append]
      exact hrest

end Splits

mutual

theorem splits_texts (lone : Bool) : (v : Value) →
    Splits (marked lone v) (texts true v) (if lone then [] else texts false v)
  | .scalar s => by
    cases s
    case text s => exact Splits.own lone [("text", s)]
    all_goals cases lone <;> exact Splits.nil
  | .mapping _ entries => by
    have hown := Splits.own lone (ownTexts entries)
    have hthen := splits_branchTexts lone "then" entries
    have helse := splits_branchTexts lone "else" entries
    rw [marked, texts, texts]
    cases lone <;> exact (hown.append hthen).append helse
  | .list _ _ => by cases lone <;> exact Splits.nil
  | .set _ _ => by cases lone <;> exact Splits.nil
  | .pair _ _ => by cases lone <;> exact Splits.nil
  | .back _ => by cases lone <;> exact Splits.nil

theorem splits_branchTexts (lone : Bool) (name : String) : (entries : List (Scalar × Value)) →
    Splits (markedBranch lone name entries) (branchTexts true name entries)
      (if lone then [] else branchTexts false name entries)
  | [] => by cases lone <;> exact Splits.nil
  | (k, v) :: rest => by
    have hrest := splits_branchTexts lone name rest
    -- a branch that is no list is marked, whatever it stands in
    have hv : Splits (marked true v) (texts true v) [] := splits_texts true v
    cases hk : k.sameKey (.text name) with
    | false =>
      cases v <;> simp only [markedBranch, branchTexts, hk, Bool.false_eq_true, if_false] <;>
        exact hrest
    | true =>
      cases v
      case list label items =>
        simp only [markedBranch, branchTexts, hk, if_true]
        exact splits_itemTexts lone items
      all_goals
        simp only [markedBranch, branchTexts, hk, if_true, Bool.false_eq_true, if_false, ite_self]
        exact hv

theorem splits_itemTexts (lone : Bool) : (items : List Value) →
    Splits (markedItems lone items) (itemTexts true items) (if lone then [] else itemTexts false items)
  | [] => by cases lone <;> exact Splits.nil
  | v :: rest => by
    have hv := splits_texts lone v
    have hrest := splits_itemTexts lone rest
    rw [markedItems, itemTexts, itemTexts]
    cases lone <;> exact hv.append hrest

end

end Storybind.Instruction
