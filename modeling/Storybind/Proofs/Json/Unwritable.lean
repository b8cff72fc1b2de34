import Mathlib.Tactic
import Storybind.Json.Writer
import Storybind.Proofs.Except

/-!
The values that are not written: those with a number of too many digits, with a name that JSON has no
text for, or with a container inside itself.
-/

namespace Storybind.Json

open Storybind.Except (Fails fails_bind fails_bind_of fails_map not_fails_ok not_fails_pure)

/-- Whether a scalar can be the name of a field. -/
def isName : Scalar → Bool
  | .bytes _ => false
  | .day _ _ => false
  | .moment _ _ => false
  | .int n => !isOverlong n
  | _ => true

/-- The values that are not written below containers with the labels of a path. -/
inductive Unwritable : List Nat → Value → Prop
  | digits {path : List Nat} {n : Int} (h : isOverlong n = true) : Unwritable path (.int n)
  | back {path : List Nat} (label : Nat) : Unwritable path (.back label)
  | listInside {path : List Nat} {label : Nat} {xs : List Value} (hlabel : label ≠ 0)
      (h : label ∈ path) : Unwritable path (.list label xs)
  | item {path : List Nat} {label : Nat} {xs : List Value} {x : Value} (hx : x ∈ xs)
      (h : Unwritable (label :: path) x) : Unwritable path (.list label xs)
  | mappingInside {path : List Nat} {label : Nat} {es : Entries} (hlabel : label ≠ 0)
      (h : label ∈ path) : Unwritable path (.mapping label es)
  | name {path : List Nat} {label : Nat} {es : Entries} {e : Scalar × Value} (he : e ∈ es)
      (h : isName e.1 = false) : Unwritable path (.mapping label es)
  | field {path : List Nat} {label : Nat} {es : Entries} {e : Scalar × Value} (he : e ∈ es)
      (h : Unwritable (label :: path) e.2) : Unwritable path (.mapping label es)
  | first {path : List Nat} {a b : Value} (h : Unwritable (0 :: path) a) :
      Unwritable path (.pair a b)
  | second {path : List Nat} {a b : Value} (h : Unwritable (0 :: path) b) :
      Unwritable path (.pair a b)

theorem fails_intText {n : Int} : Fails (intText n) ↔ isOverlong n = true := by
  unfold intText
  cases isOverlong n <;> simp [Fails]

theorem fails_keyText {k : Scalar} : Fails (keyText k) ↔ isName k = false := by
  cases k with
  | int n => simp [keyText, isName, fails_intText]
  | bool b => cases b <;> simp [keyText, isName, Fails]
  | _ => simp [keyText, isName, Fails]

theorem fails_scalar {ascii : Bool} {s : Scalar} :
    Fails (scalar ascii s) ↔ ∃ n, s = .int n ∧ isOverlong n = true := by
  cases s with
  | int n => simp [scalar, fails_map, fails_intText]
  | bool b => cases b <;> simp [scalar, Fails]
  | _ => simp [scalar, Fails]

/-- Writing what a container holds fails where the container is inside itself, or an item fails. -/
theorem fails_container {α : Type} {label : Nat} {path : List Nat} {written : Except WriteError α}
    {close : α → List Char} {bad : Prop} (h : Fails written ↔ bad) :
    Fails (do
      if label ≠ 0 && path.contains label then throw .circular
      let parts ← written
      pure (close parts) : Except WriteError (List Char)) ↔ label ≠ 0 ∧ label ∈ path ∨ bad := by
  have hcondition : (label ≠ 0 && path.contains label) = true ↔ label ≠ 0 ∧ label ∈ path := by simp
  by_cases hinside : (label ≠ 0 && path.contains label) = true
  · rw [if_pos hinside]
    exact iff_of_true ⟨_, rfl⟩ (.inl (hcondition.mp hinside))
  · rw [if_neg hinside, or_iff_right (mt hcondition.mpr hinside), ← h]
    exact (fails_bind_of fun _ => iff_of_false (not_fails_pure _) id).trans (or_iff_left id)

variable {layout : Layout}

mutual

theorem fails_value (path : List Nat) : (v : Value) →
    (Fails (value layout path v) ↔ Unwritable path v)
  | .scalar s => by
    rw [value, fails_scalar]
    constructor
    · rintro ⟨n, rfl, h⟩
      exact .digits h
    · intro h
      cases h with
      | digits h => exact ⟨_, rfl, h⟩
  | .list label xs => by
    rw [value, fails_container (fails_items (label :: path) xs)]
    constructor
    · rintro (⟨hlabel, h⟩ | ⟨x, hx, h⟩)
      · exact .listInside hlabel h
      · exact .item hx h
    · intro h
      cases h with
      | listInside hlabel h => exact .inl ⟨hlabel, h⟩
      | item hx h => exact .inr ⟨_, hx, h⟩
  | .mapping label es => by
    rw [value, fails_container (fails_fields (label :: path) es)]
    constructor
    · rintro (⟨hlabel, h⟩ | ⟨e, he, h | h⟩)
      · exact .mappingInside hlabel h
      · exact .name he h
      · exact .field he h
    · intro h
      cases h with
      | mappingInside hlabel h => exact .inl ⟨hlabel, h⟩
      | name he h => exact .inr ⟨_, he, .inl h⟩
      | field he h => exact .inr ⟨_, he, .inr h⟩
  | .set label members => by
    rw [value]
    exact iff_of_false (not_fails_ok _) nofun
  | .pair a b => by
    rw [value, fails_bind_of fun _ => (fails_bind_of fun _ => iff_of_false (not_fails_pure _) id),
      fails_value (0 :: path) a, fails_value (0 :: path) b, or_false]
    constructor
    · rintro (h | h)
      · exact .first h
      · exact .second h
    · intro h
      cases h with
      | first h => exact .inl h
      | second h => exact .inr h
  | .back label => by
    rw [value]
    exact iff_of_true ⟨_, rfl⟩ (.back label)

theorem fails_items (path : List Nat) : (xs : List Value) →
    (Fails (items layout path xs) ↔ ∃ x ∈ xs, Unwritable path x)
  | [] => by simp [items, Fails]
  | v :: rest => by
    rw [items, fails_bind_of fun _ => (fails_bind_of fun _ => iff_of_false (not_fails_pure _) id),
      fails_value path v, fails_items path rest, or_false, List.exists_mem_cons_iff]

theorem fails_fields (path : List Nat) : (es : Entries) →
    (Fails (fields layout path es) ↔ ∃ e ∈ es, isName e.1 = false ∨ Unwritable path e.2)
  | [] => by simp [fields, Fails]
  | (k, v) :: rest => by
    rw [fields, fails_bind_of fun _ => fails_bind_of fun _ =>
      (fails_bind_of fun _ => iff_of_false (not_fails_pure _) id), fails_keyText,
      fails_value path v, fails_fields path rest, or_false, List.exists_mem_cons_iff, or_assoc]

end

/-- A value is written unless something in it cannot be. -/
theorem fails_write {v : Value} : Fails (write layout v) ↔ Unwritable [] v := by
  rw [write, fails_map, fails_value]

end Storybind.Json
