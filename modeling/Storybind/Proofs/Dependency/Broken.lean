import Mathlib.Tactic
import Storybind.Dependency.Bundle
import Storybind.Proofs.Dependency.Attempts
import Storybind.Proofs.Except

/-!
When fetching libraries breaks down: a library's path, address or integrity value cannot be told at
the start, or in some round an attempt breaks down, gives content that cannot be checked, or fails
when the wait after it cannot be told.
-/

namespace Storybind

open Storybind.Except (Fails fails_map fails_mapM not_fails_ok)

namespace Fetch

/-- What an answer comes to for a library once its content is checked. -/
def examined (d : Declaration) :
    Except Breakdown (Except Fault Bytes) → Except Breakdown (Except Fault String)
  | .error e => .error e
  | .ok (.error fault) => .ok (.error fault)
  | .ok (.ok bytes) => checked d.integrity bytes

theorem takeIn_fst (d : Declaration) (key : String) (answer : Except Breakdown (Except Fault Bytes))
    (s : State) : (takeIn d key answer s).1 = examined d answer := by
  cases answer with
  | error e => rfl
  | ok r =>
    cases r with
    | error fault => rfl
    | ok bytes =>
      simp only [takeIn, examined]
      split
      · next content hcontent => rw [hcontent]
      · rfl

/-- Content is taken in unless the attempt broke down, or the content cannot be checked. -/
theorem fails_takeIn {d : Declaration} {key : String}
    {answer : Except Breakdown (Except Fault Bytes)} {s : State} :
    Fails (takeIn d key answer s).1 ↔
      Fails answer ∨ ∃ bytes, answer = .ok (.ok bytes) ∧ Fails (passes d.integrity bytes) := by
  rw [takeIn_fst]
  cases answer with
  | error e => simp [examined, Fails]
  | ok r =>
    cases r with
    | error fault => simp [examined, Fails]
    | ok bytes =>
      have hsound : ¬Fails (.ok (.ok bytes) : Except Breakdown (Except Fault Bytes)) := not_fails_ok _
      simp only [hsound, false_or, Except.ok.injEq, exists_eq_left']
      exact fails_map

end Fetch

namespace Download

open Fetch (State maxAttempts)

variable {w : Workspace} {settings : Settings} {base : Option Path}

theorem fails_outcome {x : Download} : Fails (outcome settings x) ↔ x.isBroken = true := by
  cases x <;> simp [outcome, Fails, isBroken]

theorem isBroken_start_iff {cache : Cache} {d : Declaration} :
    (start w base cache d).isBroken = true ↔ d.kind = .bundled ∧
      (Fails (Fetch.cacheKey w base (d.url.getD "")) ∨
        ∃ key, Fetch.cacheKey w base (d.url.getD "") = .ok key ∧
          Fails (Fetch.cached? d key cache)) := by
  unfold start
  by_cases hk : d.kind = .bundled
  · rw [if_pos hk]
    simp only [hk, true_and]
    cases Fetch.cacheKey w base (d.url.getD "") with
    | error e => simp [Fails, isBroken]
    | ok key =>
      simp only [Except.ok.injEq, exists_eq_left']
      cases Fetch.cached? d key cache with
      | error e => simp [Fails, isBroken]
      | ok found => cases found <;> simp [Fails, isBroken]
  · simp [hk, isBroken]

theorem isBroken_goOn {d : Declaration} {key : String} {number : Nat}
    {answer : Except Fetch.Breakdown (Except Fetch.Fault Bytes)} {s : State} :
    (goOn settings d key number answer s).1.isBroken = true ↔ Fails answer ∨
      (∃ bytes, answer = .ok (.ok bytes) ∧ Fails (Fetch.passes d.integrity bytes)) ∨
      Fetch.Untold settings number ∧ ∃ fault, Fetch.examined d answer = .ok (.error fault) := by
  have htake : Fails (Fetch.takeIn d key answer s).1 ↔ _ := Fetch.fails_takeIn
  rw [← or_assoc, ← htake, goOn_download, Fetch.takeIn_fst]
  cases Fetch.examined d answer with
  | error e => simp [Fails, landing, isBroken]
  | ok v =>
    cases v with
    | ok content => simp [Fails, landing, settled, isBroken]
    | error fault =>
      by_cases huntold : Fetch.Untold settings number
      · simp [landing, settled, huntold, isBroken]
      · simp [Fails, landing, settled, huntold, isBroken]

/-- Whether the next attempt of a download breaks down, gives content that cannot be checked, or
fails when the wait after it cannot be told. -/
def BreaksNow (w : Workspace) (settings : Settings) (base : Option Path) (s : State) :
    Download → Prop
  | .waiting d _ attempts _ =>
    let answer := (Fetch.attempt w settings base (d.url.getD "") s.network).1
    attempts < maxAttempts settings ∧ (Fails answer ∨
      (∃ bytes, answer = .ok (.ok bytes) ∧ Fails (Fetch.passes d.integrity bytes)) ∨
      Fetch.Untold settings (attempts + 1) ∧
        ∃ fault, Fetch.examined d answer = .ok (.error fault))
  | _ => False

theorem isBroken_advance {x : Download} {s : State} :
    (advance w settings base x s).1.isBroken = true ↔
      x.isBroken = true ∨ BreaksNow w settings base s x := by
  cases x with
  | waiting d key attempts complaint =>
    simp only [advance, isOpen, BreaksNow, decide_eq_true_eq]
    split
    · next h =>
      simp only [h, true_and, attempt, isBroken_goOn]
      exact (or_iff_right Bool.false_ne_true).symm
    · next h => simp [h, isBroken]
  | idle => simp [advance, BreaksNow]
  | arrived content => simp [advance, BreaksNow]
  | broken e => simp [advance, BreaksNow]

/-- Whether an attempt of a round breaks down. -/
inductive BreaksInRound (w : Workspace) (settings : Settings) (base : Option Path) :
    List Download → State → Prop
  | now {x : Download} {rest : List Download} {s : State} (h : BreaksNow w settings base s x) :
      BreaksInRound w settings base (x :: rest) s
  | later {x : Download} {rest : List Download} {s : State}
      (h : BreaksInRound w settings base rest (advance w settings base x s).2) :
      BreaksInRound w settings base (x :: rest) s

theorem isBroken_round {xs : List Download} {s : State} :
    (round w settings base xs s).1.any isBroken = true ↔
      xs.any isBroken = true ∨ BreaksInRound w settings base xs s := by
  induction xs generalizing s with
  | nil =>
    refine iff_of_false (by simp [round]) ?_
    rintro (h | h)
    · cases h
    · cases h
  | cons x rest ih =>
    simp only [round, List.any_cons, Bool.or_eq_true, ih, isBroken_advance]
    constructor
    · rintro ((h | h) | h | h)
      · exact .inl (.inl h)
      · exact .inr (.now h)
      · exact .inl (.inr h)
      · exact .inr (.later h)
    · rintro ((h | h) | h)
      · exact .inl (.inl h)
      · exact .inr (.inl h)
      · cases h with
        | now h => exact .inl (.inr h)
        | later h => exact .inr (.inr h)

/-- Whether an attempt of some rounds breaks down. -/
inductive BreaksInRounds (w : Workspace) (settings : Settings) (base : Option Path) :
    Nat → List Download → State → Prop
  | now {left : Nat} {xs : List Download} {s : State} (h : BreaksInRound w settings base xs s) :
      BreaksInRounds w settings base (left + 1) xs s
  | later {left : Nat} {xs : List Download} {s : State}
      (h : BreaksInRounds w settings base left (round w settings base xs s).1
        (round w settings base xs s).2) :
      BreaksInRounds w settings base (left + 1) xs s

/-- A download without an attempt left stays as it is. -/
theorem advance_of_closed {x : Download} (h : x.isOpen settings = false) (s : State) :
    advance w settings base x s = (x, s) := by
  cases x with
  | waiting d key attempts complaint => rw [advance, if_neg (by rw [h]; exact Bool.false_ne_true)]
  | idle => rfl
  | arrived content => rfl
  | broken e => rfl

theorem round_of_closed {xs : List Download} {s : State} (h : ∀ x ∈ xs, x.isOpen settings = false) :
    round w settings base xs s = (xs, s) := by
  induction xs with
  | nil => rfl
  | cons x rest ih =>
    rw [round, advance_of_closed (h x List.mem_cons_self)]
    simp only [ih fun y hy => h y (List.mem_cons_of_mem x hy)]

theorem isOpen_of_isBroken {x : Download} (h : x.isBroken = true) : x.isOpen settings = false := by
  cases x with
  | broken e => rfl
  | idle => cases h
  | arrived content => cases h
  | waiting d key attempts complaint => cases h

theorem rounds_of_closed {xs : List Download} (h : ∀ x ∈ xs, x.isOpen settings = false) (left : Nat)
    (s : State) : rounds w settings base left xs s = (xs, s) := by
  have hnone : xs.any (isOpen settings) = false := by
    rw [List.any_eq_false]
    intro x hx
    rw [h x hx]
    exact Bool.false_ne_true
  cases left with
  | zero =>
    rw [rounds, round_of_closed h]
    exact ite_self _
  | succ left =>
    rw [rounds, round_of_closed h, hnone]
    exact ite_self _

theorem not_breaksInRound_of_closed {xs : List Download} {s : State}
    (h : ∀ x ∈ xs, x.isOpen settings = false) : ¬BreaksInRound w settings base xs s := by
  intro hbreaks
  induction hbreaks with
  | @now x rest s hnow =>
    have hclosed := h x List.mem_cons_self
    cases x with
    | waiting d key attempts complaint =>
      rw [isOpen, decide_eq_false_iff_not] at hclosed
      exact hclosed hnow.1
    | idle => exact hnow
    | arrived content => exact hnow
    | broken e => exact hnow
  | later _ ih => exact ih fun y hy => h y (List.mem_cons_of_mem _ hy)

theorem not_breaksInRounds_of_closed {left : Nat} {xs : List Download} {s : State}
    (h : ∀ x ∈ xs, x.isOpen settings = false) : ¬BreaksInRounds w settings base left xs s := by
  induction left with
  | zero => nofun
  | succ left ih =>
    intro hbreaks
    cases hbreaks with
    | now hnow => exact not_breaksInRound_of_closed h hnow
    | later hlater =>
      rw [round_of_closed h] at hlater
      exact ih hlater

theorem isBroken_rounds (left : Nat) {xs : List Download} {s : State} :
    (rounds w settings base left xs s).1.any isBroken = true ↔
      xs.any isBroken = true ∨ BreaksInRounds w settings base left xs s := by
  induction left generalizing xs s with
  | zero =>
    have hsame : (rounds w settings base 0 xs s).1 = xs := by
      unfold rounds
      split <;> rfl
    have hnone : ¬BreaksInRounds w settings base 0 xs s := by
      intro h
      cases h
    rw [hsame, or_iff_left hnone]
  | succ left ih =>
    unfold rounds
    split
    · next hbroken => exact iff_of_true hbroken (.inl hbroken)
    · next hsound =>
      rw [or_iff_right hsound]
      simp only
      split
      -- nothing was broken before the round, so what is broken after it broke in it
      · rw [ih, isBroken_round, or_iff_right hsound]
        constructor
        · rintro (h | h)
          · exact .now h
          · exact .later h
        · intro h
          cases h with
          | now h => exact .inl h
          | later h => exact .inr h
      · next hclosed =>
        refine iff_of_false hsound (not_breaksInRounds_of_closed fun x hx => ?_)
        simpa using fun hopen => hclosed (List.any_eq_true.mpr ⟨x, hx, hopen⟩)

end Download

/-- Fetching libraries breaks down at the start of one, or at an attempt of one. -/
theorem Bundle.fails_resolve {w : Workspace} {settings : Settings} {base : Option Path}
    {minify : Bool} {ds : List Declaration} {s : Fetch.State} :
    Fails (resolve w settings base minify ds s).1 ↔
      (∃ d ∈ ds, d.kind = .bundled ∧ (Fails (Fetch.cacheKey w base (d.url.getD "")) ∨
        ∃ key, Fetch.cacheKey w base (d.url.getD "") = .ok key ∧
          Fails (Fetch.cached? d key s.cache))) ∨
        Download.BreaksInRounds w settings base (Fetch.maxAttempts settings)
          ((Declaration.byPriority ds).map (Download.start w base s.cache)) s := by
  simp only [← Download.isBroken_start_iff]
  simp only [resolve, fails_map, Download.fetchAll, fails_mapM, Download.fails_outcome]
  rw [← List.any_eq_true, Download.isBroken_rounds]
  simp [Declaration.byPriority]

end Storybind
