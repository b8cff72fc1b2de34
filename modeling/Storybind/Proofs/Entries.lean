import Mathlib.Tactic
import Storybind.Value.Key

/-!
Entries under texts: a text is the key of itself alone, so what is put under one text leaves what is
under the others. Entries that were put one after another hold no key twice.
-/

namespace Storybind

theorem Scalar.sameKey_text {k : Scalar} {t : String} :
    k.sameKey (.text t) = true ↔ k = .text t := by
  cases k <;> simp [sameKey, asNumber?]

namespace Entries

variable {es : Entries} {t : String}

theorem has_text : has (.text t) es = true ↔ ∃ e ∈ es, e.1 = .text t := by
  unfold has
  induction es with
  | nil => simp [find?]
  | cons e es ih =>
    obtain ⟨k, v⟩ := e
    rw [find?, List.exists_mem_cons_iff, ← ih, ← Scalar.sameKey_text]
    cases k.sameKey (.text t) <;> simp

/-- Entries with texts for keys. -/
def ofTexts (fields : List (String × Value)) : Entries := fields.map fun f => (.text f.1, f.2)

theorem get?_ofTexts (fields : List (String × Value)) (t : String) :
    get? t (ofTexts fields) = fields.lookup t := by
  unfold get? ofTexts
  induction fields with
  | nil => rfl
  | cons f rest ih =>
    rw [List.map_cons, find?, ih, List.lookup_cons]
    by_cases hf : f.1 = t
    · rw [if_pos (Scalar.sameKey_text.mpr (congrArg Scalar.text hf)), beq_iff_eq.mpr hf.symm]
    · have hkey : ¬(Scalar.text f.1).sameKey (.text t) = true :=
        fun h => hf (Scalar.text.inj (Scalar.sameKey_text.mp h))
      rw [if_neg hkey, beq_eq_false_iff_ne.mpr (Ne.symm hf)]

theorem has_ofTexts (fields : List (String × Value)) (t : String) :
    has (.text t) (ofTexts fields) = true ↔ t ∈ fields.map Prod.fst := by
  rw [has_text]
  simp [ofTexts]

/-- What is put under a text is found under it, and nothing else is touched. -/
theorem get?_set (name t : String) (v : Value) (es : Entries) :
    get? t (set name v es) = if name = t then some v else get? t es := by
  have hsame : (Scalar.text name).sameKey (.text t) = true ↔ name = t := by
    rw [Scalar.sameKey_text, Scalar.text.injEq]
  unfold get? set
  induction es with
  | nil => simp only [put, find?, hsame]
  | cons e rest ih =>
    obtain ⟨k, x⟩ := e
    rw [put]
    split
    · next hkey =>
      obtain rfl := Scalar.sameKey_text.mp hkey
      simp only [find?, hsame]
      split <;> rfl
    · next hkey =>
      rw [find?, find?, ih]
      by_cases hname : name = t
      · -- then the key that was passed over is not `t` either
        subst hname
        rw [if_neg hkey, if_pos rfl, if_pos rfl]
      · rw [if_neg hname, if_neg hname]

/-! ### Keys -/

variable {key : Scalar} {v : Value}

/-- Whether no key is there twice. -/
def Distinct (es : Entries) : Prop := es.Pairwise fun e f => e.1.sameKey f.1 = false

theorem key_of_mem_put {f : Scalar × Value} (h : f ∈ put key v es) :
    f.1 = key ∨ ∃ e ∈ es, f.1 = e.1 := by
  induction es with
  | nil => exact .inl (congrArg Prod.fst (List.mem_singleton.mp h))
  | cons e rest ih =>
    obtain ⟨k, x⟩ := e
    rw [put] at h
    rw [List.exists_mem_cons_iff]
    split at h
    · rcases List.mem_cons.mp h with rfl | hmem
      · exact .inr (.inl rfl)
      · exact .inr (.inr ⟨f, hmem, rfl⟩)
    · rcases List.mem_cons.mp h with rfl | hmem
      · exact .inr (.inl rfl)
      · exact (ih hmem).imp_right .inr

theorem Distinct.put (h : es.Distinct) (key : Scalar) (v : Value) : (put key v es).Distinct := by
  induction es with
  | nil => exact List.pairwise_singleton _ _
  | cons e rest ih =>
    obtain ⟨k, x⟩ := e
    obtain ⟨hhead, hrest⟩ := List.pairwise_cons.mp h
    rw [Entries.put]
    split
    · exact List.pairwise_cons.mpr ⟨hhead, hrest⟩
    · next hkey =>
      refine List.pairwise_cons.mpr ⟨fun f hf => ?_, ih hrest⟩
      rcases key_of_mem_put hf with hnew | ⟨e, he, hold⟩
      · rw [hnew, Bool.eq_false_iff.mpr hkey]
      · rw [hold, hhead e he]

theorem distinct_ofPairs (pairs : List (Scalar × Value)) : (ofPairs pairs).Distinct := by
  have hput : ∀ es : Entries, es.Distinct →
      (pairs.foldl (fun es p => put p.1 p.2 es) es).Distinct := by
    induction pairs with
    | nil => exact fun es h => h
    | cons p rest ih => exact fun es h => ih _ (h.put p.1 p.2)
  exact hput [] List.Pairwise.nil

end Entries
end Storybind
