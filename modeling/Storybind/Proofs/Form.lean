import Mathlib.Tactic
import Storybind.Form

/-!
What must have been read for a form to be read, and what reading parts comes to for the whole.
-/

namespace Storybind.Form

variable {α β : Type}

theorem map_ok {f : α → β} {x : Form α} {b : β} (h : (f <$> x).outcome = .ok b) :
    ∃ a, x.outcome = .ok a ∧ f a = b := by
  change x.outcome.map f = .ok b at h
  cases hx : x.outcome with
  | error e => rw [hx] at h; cases h
  | ok a => rw [hx] at h; exact ⟨a, rfl, Except.ok.inj h⟩

theorem seq_ok {f : Form (α → β)} {x : Form α} {b : β} (h : (f <*> x).outcome = .ok b) :
    ∃ g a, f.outcome = .ok g ∧ x.outcome = .ok a ∧ g a = b := by
  change (apply f x).outcome = .ok b at h
  unfold apply at h
  split at h
  · next g a hf hx => exact ⟨g, a, hf, hx, Except.ok.inj h⟩
  all_goals cases h

theorem andThen_ok {x : Form α} {f : α → Form β} {b : β} (h : (x.andThen f).outcome = .ok b) :
    ∃ a, x.outcome = .ok a ∧ (f a).outcome = .ok b := by
  unfold andThen at h
  split at h
  · next a hx => exact ⟨a, hx, h⟩
  · cases h

theorem under_ok {step : Step} {x : Form α} {a : α} (h : (under step x).outcome = .ok a) :
    x.outcome = .ok a := by
  unfold under at h
  cases hx : x.outcome with
  | error e => rw [hx] at h; cases h
  | ok a' => rw [hx] at h; exact congrArg Except.ok (Except.ok.inj h)

theorem ruled_ok {complaint? : α → Option String} {x : Form α} {a : α}
    (h : (ruled complaint? x).outcome = .ok a) : x.outcome = .ok a ∧ complaint? a = none := by
  obtain ⟨a', hx, h⟩ := andThen_ok h
  split at h
  · next hc =>
    obtain rfl : a' = a := Except.ok.inj h
    exact ⟨hx, hc⟩
  · cases h

theorem withDefault_ok {entries : Entries} {names : List String} {default : α}
    {read : Value → Form α} {a : α} (h : (withDefault entries names default read).outcome = .ok a) :
    a = default ∨ ∃ v, (read v).outcome = .ok a := by
  unfold withDefault at h
  split at h
  · next v _ => exact Or.inr ⟨v, under_ok h⟩
  · exact Or.inl (Except.ok.inj h).symm

theorem map_of_ok {f : α → β} {x : Form α} {a : α} (h : x.outcome = .ok a) :
    (f <$> x).outcome = .ok (f a) := by
  show x.outcome.map f = .ok (f a)
  rw [h]
  rfl

theorem seq_of_ok {f : Form (α → β)} {x : Form α} {g : α → β} {a : α} (hf : f.outcome = .ok g)
    (hx : x.outcome = .ok a) : (f <*> x).outcome = .ok (g a) := by
  show (apply f x).outcome = .ok (g a)
  unfold apply
  rw [hf, hx]

theorem under_of_ok {step : Step} {x : Form α} {a : α} (h : x.outcome = .ok a) :
    (under step x).outcome = .ok a := by
  rw [under, h]
  rfl

theorem andThen_of_ok {x : Form α} {f : α → Form β} {a : α} (h : x.outcome = .ok a) :
    x.andThen f = f a := by
  rw [andThen, h]

theorem ruled_of_ok {complaint? : α → Option String} {x : Form α} {a : α} (h : x.outcome = .ok a)
    (hrule : complaint? a = none) : (ruled complaint? x).outcome = .ok a := by
  rw [ruled, andThen, h]
  simp only [hrule]
  rfl

section

variable {entries : Entries} {names : List String} {default : α} {read : Value → Form α}

theorem withDefault_of_none (h : lookupFirst entries names = none) :
    (withDefault entries names default read).outcome = .ok default := by
  rw [withDefault, h]
  rfl

theorem withDefault_of_some {v : Value} {a : α} (h : lookupFirst entries names = some v)
    (hread : (read v).outcome = .ok a) :
    (withDefault entries names default read).outcome = .ok a := by
  rw [withDefault, h]
  exact under_of_ok hread

theorem required_of_some {v : Value} {a : α} (h : lookupFirst entries names = some v)
    (hread : (read v).outcome = .ok a) : (required entries names read).outcome = .ok a := by
  rw [required, h]
  exact under_of_ok hread

end

/-! ### Readings that find nothing but flaws -/

/-- Whether what fails about a reading are flaws. -/
def FlawsOnly (x : Form α) : Prop := ∀ e, x.outcome = .error e → ∃ fs, e = .flaws fs

theorem flawsOnly_ok (a : α) : FlawsOnly (ok a) := fun _ h => nomatch h

theorem flawsOnly_flaw (m : Mismatch) : FlawsOnly (flaw m : Form α) := by
  intro e h
  cases h
  exact ⟨_, rfl⟩

theorem FlawsOnly.map {x : Form α} (h : FlawsOnly x) (f : α → β) : FlawsOnly (f <$> x) := by
  intro e he
  change x.outcome.map f = .error e at he
  cases hx : x.outcome with
  | ok a =>
    rw [hx] at he
    cases he
  | error e' =>
    rw [hx] at he
    cases he
    exact h e hx

theorem FlawsOnly.seq {f : Form (α → β)} {x : Form α} (hf : FlawsOnly f) (hx : FlawsOnly x) :
    FlawsOnly (f <*> x) := by
  intro e he
  change (apply f x).outcome = .error e at he
  unfold apply at he
  -- flaws of both are put together, and of other errors one is kept
  split at he
  · cases he
  · cases he
    exact ⟨_, rfl⟩
  · next e' _ he' =>
    cases he
    exact hx e he'
  · next e' he' _ _ =>
    cases he
    exact hf _ he'
  · next e' _ he' =>
    cases he
    exact hx e he'

theorem FlawsOnly.andThen {x : Form α} {f : α → Form β} (hx : FlawsOnly x)
    (hf : ∀ a, FlawsOnly (f a)) : FlawsOnly (x.andThen f) := by
  intro e he
  unfold Form.andThen at he
  split at he
  · next a _ => exact hf a e he
  · next e' he' =>
    cases he
    exact hx e he'

theorem FlawsOnly.under {x : Form α} (h : FlawsOnly x) (step : Step) :
    FlawsOnly (Form.under step x) := by
  intro e he
  unfold Form.under at he
  cases hx : x.outcome with
  | ok a =>
    rw [hx] at he
    cases he
  | error e' =>
    obtain ⟨fs, rfl⟩ := h e' hx
    rw [hx] at he
    cases he
    exact ⟨_, rfl⟩

theorem FlawsOnly.ruled {x : Form α} (h : FlawsOnly x) (complaint? : α → Option String) :
    FlawsOnly (Form.ruled complaint? x) := by
  refine h.andThen fun a => ?_
  cases complaint? a with
  | none => exact flawsOnly_ok a
  | some complaint => exact flawsOnly_flaw (.rule complaint)

theorem flawsOnly_text (v : Value) : FlawsOnly (text v) := by
  unfold text
  split
  · exact flawsOnly_ok _
  · split
    · exact flawsOnly_ok _
    · exact flawsOnly_flaw _
  · exact flawsOnly_flaw _

theorem flawsOnly_choice (named : List (String × α)) (mismatch : List String → Mismatch)
    (v : Value) : FlawsOnly (choice named mismatch v) := by
  unfold choice
  split
  · split
    · exact flawsOnly_ok _
    · exact flawsOnly_flaw _
  · exact flawsOnly_flaw _

theorem flawsOnly_int (v : Value) : FlawsOnly (int v) := by
  have htext (s : String) : FlawsOnly (intOfText s) := by
    unfold intOfText
    repeat' split
    all_goals first | exact flawsOnly_ok _ | exact flawsOnly_flaw _
  unfold int
  repeat' split
  all_goals first | exact flawsOnly_ok _ | exact flawsOnly_flaw _ | exact htext _

theorem flawsOnly_bool (v : Value) : FlawsOnly (bool v) := by
  have htext (s : String) : FlawsOnly (boolOfText s) := by
    unfold boolOfText
    dsimp only
    repeat' split
    all_goals first | exact flawsOnly_ok _ | exact flawsOnly_flaw _
  unfold bool
  repeat' split
  all_goals first | exact flawsOnly_ok _ | exact flawsOnly_flaw _ | exact htext _

theorem flawsOnly_list {read : Value → Form α} (h : ∀ v, FlawsOnly (read v)) (v : Value) :
    FlawsOnly (list read v) := by
  have hitems (n : Nat) (items : List Value) : FlawsOnly (itemsFrom read n items) := by
    induction items generalizing n with
    | nil => exact flawsOnly_ok []
    | cons v rest ih => exact (((h v).under (.index n)).map List.cons).seq (ih (n + 1))
  unfold list
  split
  · exact hitems 0 _
  · exact hitems 0 _
  · exact hitems 0 _
  · exact flawsOnly_flaw .list

theorem flawsOnly_textMapping (v : Value) : FlawsOnly (textMapping v) := by
  have hentries (es : Entries) : FlawsOnly (textKeyed es) := by
    refine FlawsOnly.map ?_ Entries.ofPairs
    induction es with
    | nil => exact flawsOnly_ok []
    | cons e rest ih =>
      have hkey := ((flawsOnly_text (.scalar e.1)).under (.field "[key]")).under (.field e.1.display)
      exact ((hkey.map fun s => (Scalar.text s, e.2)).map List.cons).seq ih
  have hmapping : FlawsOnly (mapping v) := by
    unfold mapping
    split
    · exact flawsOnly_ok _
    · exact flawsOnly_flaw .mapping
  exact hmapping.andThen hentries

section

variable {entries : Entries} {read : Value → Form α}

theorem flawsOnly_optional (h : ∀ v, FlawsOnly (read v)) (v : Value) :
    FlawsOnly (optional read v) := by
  unfold optional
  split
  · exact flawsOnly_ok none
  · exact (h v).map some

theorem flawsOnly_withDefault (h : ∀ v, FlawsOnly (read v)) (names : List String) (default : α) :
    FlawsOnly (withDefault entries names default read) := by
  unfold withDefault
  split
  · exact (h _).under _
  · exact flawsOnly_ok default

theorem flawsOnly_required (h : ∀ v, FlawsOnly (read v)) (names : List String) :
    FlawsOnly (required entries names read) := by
  unfold required
  refine FlawsOnly.under ?_ _
  split
  · exact h _
  · exact flawsOnly_flaw .missing

theorem flawsOnly_maybe (h : ∀ v, FlawsOnly (read v)) (name : String) :
    FlawsOnly (maybe entries name read) :=
  flawsOnly_withDefault (flawsOnly_optional h) [name] none

end
end Storybind.Form
