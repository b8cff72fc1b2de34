import Mathlib.Tactic

/-!
Steps that may fail, one after another: the whole succeeds where every step does, and fails where
one that is reached does.
-/

namespace Storybind.Except

variable {ε α β : Type}

theorem map_eq_ok {f : α → β} {x : Except ε α} {b : β} :
    x.map f = .ok b ↔ ∃ a, x = .ok a ∧ f a = b := by
  cases x with
  | error e => simp [Except.map]
  | ok a => simp [Except.map]

theorem bind_eq_ok {f : α → Except ε β} {x : Except ε α} {b : β} :
    x.bind f = .ok b ↔ ∃ a, x = .ok a ∧ f a = .ok b := by
  cases x with
  | error e => simp [Except.bind]
  | ok a => simp [Except.bind]

theorem bind_congr_ok {f g : α → Except ε β} {x : Except ε α} (h : ∀ a, x = .ok a → f a = g a) :
    x >>= f = x >>= g := by
  cases x with
  | error e => rfl
  | ok a => exact h a rfl

theorem mapM_eq_ok {f : α → Except ε β} {xs : List α} {ys : List β} :
    xs.mapM f = .ok ys ↔ List.Forall₂ (fun x y => f x = .ok y) xs ys := by
  induction xs generalizing ys with
  | nil => cases ys <;> simp [pure, Except.pure]
  | cons x xs ih =>
    rw [List.mapM_cons]
    refine bind_eq_ok.trans ⟨?_, ?_⟩
    · rintro ⟨y, hy, h⟩
      obtain ⟨rest, hrest, hys⟩ := bind_eq_ok.mp h
      cases hys
      exact List.Forall₂.cons hy (ih.mp hrest)
    · intro h
      cases h with
      | cons hy hrest => exact ⟨_, hy, bind_eq_ok.mpr ⟨_, ih.mpr hrest, rfl⟩⟩

theorem mapError_eq_ok {γ : Type} {x : Except ε α} {f : ε → γ} {a : α} :
    x.mapError f = .ok a ↔ x = .ok a := by
  cases x with
  | error e => simp [Except.mapError]
  | ok a => simp [Except.mapError]

theorem map_eq_error {f : α → β} {x : Except ε α} {e : ε} : x.map f = .error e ↔ x = .error e := by
  cases x with
  | error e => simp [Except.map]
  | ok a => simp [Except.map]

theorem bind_eq_error {f : α → Except ε β} {x : Except ε α} {e : ε} :
    x.bind f = .error e ↔ x = .error e ∨ ∃ a, x = .ok a ∧ f a = .error e := by
  cases x with
  | error e => simp [Except.bind]
  | ok a => simp [Except.bind]

theorem mapError_eq_error {γ : Type} {x : Except ε α} {f : ε → γ} {e : γ} :
    x.mapError f = .error e ↔ ∃ e', x = .error e' ∧ f e' = e := by
  cases x with
  | error e => simp [Except.mapError]
  | ok a => simp [Except.mapError]

/-- Whether steps fail. -/
def Fails (x : Except ε α) : Prop := ∃ e, x = .error e

theorem not_fails_ok (a : α) : ¬Fails (.ok a : Except ε α) := by
  rintro ⟨e, he⟩
  cases he

theorem not_fails {x : Except ε α} : ¬Fails x ↔ ∃ a, x = .ok a := by
  cases x <;> simp [Fails]

theorem not_fails_of_isOk {x : Except ε α} (h : x.isOk = true) : ¬Fails x := by
  rintro ⟨e, rfl⟩
  cases h

theorem not_fails_pure (a : α) : ¬Fails (pure a : Except ε α) := not_fails_ok a

theorem fails_bind {x : Except ε α} {f : α → Except ε β} :
    Fails (x >>= f) ↔ Fails x ∨ ∃ a, x = .ok a ∧ Fails (f a) := by
  cases x with
  | error e => simp [Fails, bind, Except.bind]
  | ok a => simp [Fails, bind, Except.bind]

theorem fails_bind_of {x : Except ε α} {f : α → Except ε β} {bad : Prop}
    (h : ∀ a, Fails (f a) ↔ bad) : Fails (x >>= f) ↔ Fails x ∨ bad := by
  rw [fails_bind]
  cases x with
  | error e => simp [Fails]
  | ok a => simp [h]

theorem fails_map {x : Except ε α} {f : α → β} : Fails (x.map f) ↔ Fails x := by
  cases x with
  | error e => simp [Fails, Except.map]
  | ok a => simp [Fails, Except.map]

theorem fails_mapError {γ : Type} {x : Except ε α} {f : ε → γ} : Fails (x.mapError f) ↔ Fails x := by
  cases x with
  | error e => simp [Fails, Except.mapError]
  | ok a => simp [Fails, Except.mapError]

theorem fails_mapM {f : α → Except ε β} {xs : List α} :
    Fails (xs.mapM f) ↔ ∃ x ∈ xs, Fails (f x) := by
  induction xs with
  | nil => simp [Fails, pure, Except.pure]
  | cons x xs ih =>
    rw [List.mapM_cons, List.exists_mem_cons_iff, ← ih]
    exact fails_bind_of fun y =>
      (fails_bind_of fun ys => iff_of_false (not_fails_pure (y :: ys)) id).trans (or_iff_left id)

/-- Where all items fail alike if at all, and some do, that is how all of them fail. -/
theorem mapM_eq_error {f : α → Except ε β} {xs : List α} {e : ε}
    (hall : ∀ x ∈ xs, ∀ e', f x = .error e' → e' = e) (hfails : ∃ x ∈ xs, Fails (f x)) :
    xs.mapM f = .error e := by
  obtain ⟨e', he'⟩ := fails_mapM.mpr hfails
  rw [he']
  induction xs with
  | nil => cases he'
  | cons x xs ih =>
    obtain ⟨hx, hxs⟩ := List.forall_mem_cons.mp hall
    rw [List.mapM_cons] at he'
    cases hfx : f x with
    | error e'' =>
      rw [hfx] at he'
      cases he'
      rw [hx _ hfx]
    | ok b =>
      rw [hfx] at he'
      cases hrest : xs.mapM f with
      | error e'' =>
        rw [hrest] at he'
        cases he'
        exact ih hxs (fails_mapM.mp ⟨_, hrest⟩) hrest
      | ok bs =>
        rw [hrest] at he'
        cases he'

/-- Where the failure of a step does not depend on the steps before, one bad item makes all fail. -/
theorem fails_foldlM {step : β → α → Except ε β} {bad : α → Prop}
    (h : ∀ b a, Fails (step b a) ↔ bad a) (items : List α) (b : β) :
    Fails (items.foldlM step b) ↔ ∃ a ∈ items, bad a := by
  induction items generalizing b with
  | nil => simp [Fails, pure, Except.pure]
  | cons a rest ih =>
    rw [List.foldlM_cons, fails_bind, h, List.exists_mem_cons_iff]
    simp only [ih]
    cases hstep : step b a with
    | ok b' => simp
    | error e =>
      have hbad : bad a := (h b a).mp ⟨e, hstep⟩
      simp [hbad]

/-- Where the steps keep an invariant, and under it the failure of a step does not depend on the steps
before, one bad item makes all fail. -/
theorem fails_foldlM_of_invariant {step : β → α → Except ε β} {inv : β → Prop} {bad : α → Prop}
    (hfails : ∀ b a, inv b → (Fails (step b a) ↔ bad a))
    (hkeeps : ∀ b a b', inv b → step b a = .ok b' → inv b') {b : β} (hb : inv b) (items : List α) :
    (Fails (items.foldlM step b) ↔ ∃ a ∈ items, bad a) ∧
      ∀ b', items.foldlM step b = .ok b' → inv b' := by
  induction items generalizing b with
  | nil =>
    refine ⟨by simp [Fails, pure, Except.pure], fun b' h => ?_⟩
    cases h
    exact hb
  | cons a rest ih =>
    rw [List.foldlM_cons, fails_bind, hfails b a hb, List.exists_mem_cons_iff]
    cases hstep : step b a with
    | error e =>
      have hbad : bad a := (hfails b a hb).mp ⟨e, hstep⟩
      exact ⟨by simp [hbad], nofun⟩
    | ok next =>
      have hgood : ¬bad a := fun hbad => by
        obtain ⟨e, he⟩ := (hfails b a hb).mpr hbad
        rw [hstep] at he
        cases he
      obtain ⟨hrest, hinv⟩ := ih (hkeeps b a next hb hstep)
      refine ⟨?_, hinv⟩
      rw [← hrest]
      simp [hgood]

/-- What fails in a row of steps is one of them. -/
theorem exists_of_foldlM_eq_error {step : β → α → Except ε β} {items : List α} {b : β} {e : ε}
    (h : items.foldlM step b = .error e) : ∃ a ∈ items, ∃ b', step b' a = .error e := by
  induction items generalizing b with
  | nil => cases h
  | cons a rest ih =>
    rw [List.foldlM_cons] at h
    rcases bind_eq_error.mp h with hstep | ⟨next, -, hrest⟩
    · exact ⟨a, List.mem_cons_self, b, hstep⟩
    · obtain ⟨a', ha', hstep⟩ := ih hrest
      exact ⟨a', List.mem_cons_of_mem a ha', hstep⟩

/-- Steps over the items of lists, one list after another. -/
theorem foldlM_flatMap {γ : Type} {step : β → γ → Except ε β} (f : α → List γ) (items : List α) (b : β) :
    (items.flatMap f).foldlM step b = items.foldlM (fun b a => (f a).foldlM step b) b := by
  induction items generalizing b with
  | nil => rfl
  | cons a rest ih =>
    rw [List.flatMap_cons, List.foldlM_append, List.foldlM_cons]
    exact congrArg ((f a).foldlM step b >>= ·) (funext ih)

/-- Where every step adds to an outcome, the outcome in the end is all that was added. -/
theorem foldlM_collects {γ : Type} {step : β → α → Except ε β} (outcome : β → List γ)
    (adds : α → List γ) (h : ∀ b a b', step b a = .ok b' → outcome b' = outcome b ++ adds a)
    {items : List α} {b b' : β} (hfold : items.foldlM step b = .ok b') :
    outcome b' = outcome b ++ items.flatMap adds := by
  induction items generalizing b with
  | nil =>
    cases hfold
    exact (List.append_nil _).symm
  | cons a rest ih =>
    rw [List.foldlM_cons] at hfold
    obtain ⟨next, hnext, hrest⟩ := bind_eq_ok.mp hfold
    rw [ih hrest, h b a next hnext, List.flatMap_cons, List.append_assoc]

/-- What every step keeps is kept by all of them. -/
theorem foldlM_keeps {step : β → α → Except ε β} {inv : β → Prop}
    (h : ∀ b a b', inv b → step b a = .ok b' → inv b') {items : List α} {b b' : β} (hb : inv b)
    (hfold : items.foldlM step b = .ok b') : inv b' := by
  induction items generalizing b with
  | nil =>
    cases hfold
    exact hb
  | cons a rest ih =>
    rw [List.foldlM_cons] at hfold
    obtain ⟨next, hnext, hrest⟩ := bind_eq_ok.mp hfold
    exact ih (h b a next hb hnext) hrest

theorem foldlM_congr {step step' : β → α → Except ε β} {items : List α}
    (h : ∀ a ∈ items, ∀ b, step' b a = step b a) (b : β) :
    items.foldlM step' b = items.foldlM step b := by
  induction items generalizing b with
  | nil => rfl
  | cons a rest ih =>
    rw [List.foldlM_cons, List.foldlM_cons, h a List.mem_cons_self]
    exact congrArg (step b a >>= ·) (funext fun b' =>
      ih (fun x hx => h x (List.mem_cons_of_mem a hx)) b')

end Storybind.Except
