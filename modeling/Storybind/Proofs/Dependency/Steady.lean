import Mathlib.Tactic
import Storybind.Proofs.Dependency.Attempts
import Storybind.Proofs.Dependency.Broken
import Storybind.Proofs.Web.Network

/-!
Fetching where every attempt at a location brings the same: each library gives what one attempt
tells, or what is cached. The rounds make no difference, unless there are so many of them that a
wait between two cannot be told.
-/

namespace Storybind

open Fetch

namespace Fetch

variable {w : Workspace} {settings : Settings} {base : Option Path} {m n : Web.Network}

theorem attempt_replies (location : String) :
    (attempt w settings base location n).2.replies = n.replies := by
  unfold attempt
  split
  · rfl
  · split
    · exact Web.fetch_replies location n
    · rfl

/-- On a steady network every attempt at a location brings the same. -/
theorem attempt_steady (hn : n.Steady) (hm : m.replies = n.replies) (location : String) :
    (attempt w settings base location m).1 = (attempt w settings base location n).1 := by
  unfold attempt
  split
  · rfl
  · split
    · exact congrArg (ofRequest settings) (Web.fetch_steady hn hm location)
    · rfl

/-- Whether a library can be fetched at all. -/
def keyed (w : Workspace) (base : Option Path) (d : Declaration) : Except Breakdown Unit :=
  if d.kind = .bundled then (cacheKey w base (d.url.getD "")).map fun _ => () else .ok ()

/-- What a library gives where every attempt brings what one brings at a network. -/
def steadyOutcome (w : Workspace) (settings : Settings) (base : Option Path) (n : Web.Network)
    (d : Declaration) : Except Breakdown Outcome :=
  if d.kind = .bundled then
    match (attempt w settings base (d.url.getD "") n).1 with
    | .error e => .error e
    | .ok r =>
      match judged d.integrity r with
      | .ok content => .ok (.content content)
      | .error fault => .ok (.givenUp (Download.finalComplaint settings fault.message))
  else .ok .unfetched

/-- What is left of an outcome after all attempts: a library is given up only if every wait between
attempts can be told. -/
def outlasted (settings : Settings) : Outcome → Except Breakdown Outcome
  | .givenUp complaint =>
    if WaitsTold settings then .ok (.givenUp complaint) else .error (.wait .tooLarge)
  | o => .ok o

/-- What a library gives after all attempts where every attempt brings what one brings at a network.
-/
def lastingOutcome (w : Workspace) (settings : Settings) (base : Option Path) (n : Web.Network)
    (d : Declaration) : Except Breakdown Outcome :=
  (steadyOutcome w settings base n d).bind (outlasted settings)

end Fetch

namespace Download

variable {w : Workspace} {settings : Settings} {base : Option Path} {n : Web.Network}
  {d : Declaration}

theorem goOn_replies (key : String) (number : Nat)
    (answer : Except Breakdown (Except Fault Bytes)) (s : State) :
    (goOn settings d key number answer s).2.network.replies = s.network.replies := by
  have htake := takeIn_network d key answer s
  rcases goOn_state settings d key number answer s with hstate | ⟨seconds, hstate⟩
  · rw [hstate, htake]
  · rw [hstate, ← htake]
    rfl

/-- A download that nothing was asked for yet. -/
inductive Fresh (w : Workspace) (settings : Settings) (base : Option Path) (n : Web.Network)
    (d : Declaration) : Download → Prop
  | idle (hk : d.kind ≠ .bundled) : Fresh w settings base n d .idle
  | arrived {content : String} (h : steadyOutcome w settings base n d = .ok (.content content)) :
      Fresh w settings base n d (.arrived content)
  | waiting {key complaint : String} (hk : d.kind = .bundled) :
      Fresh w settings base n d (.waiting d key 0 complaint)

/-- A download that agrees with what every attempt brings; `late` tells that it may have broken down
because a wait could not be told. -/
inductive Agrees (w : Workspace) (settings : Settings) (base : Option Path) (n : Web.Network)
    (late : Prop) (d : Declaration) : Download → Prop
  | idle (hk : d.kind ≠ .bundled) : Agrees w settings base n late d .idle
  | arrived {content : String} (h : steadyOutcome w settings base n d = .ok (.content content)) :
      Agrees w settings base n late d (.arrived content)
  | waiting {key complaint : String} {attempts : Nat} (hk : d.kind = .bundled)
      (hfew : WaitsTold settings ∨ attempts ≤ 1024)
      (h : steadyOutcome w settings base n d =
        .ok (.givenUp (finalComplaint settings complaint))) :
      Agrees w settings base n late d (.waiting d key attempts complaint)
  | broken {e : Breakdown} (h : steadyOutcome w settings base n d = .error e) :
      Agrees w settings base n late d (.broken e)
  | stranded {complaint : String} (hlate : late) (hwaits : ¬WaitsTold settings)
      (h : steadyOutcome w settings base n d = .ok (.givenUp complaint)) :
      Agrees w settings base n late d (.broken (.wait .tooLarge))

variable {late : Prop}

theorem Agrees.mono {late' : Prop} {x : Download} (hx : Agrees w settings base n late d x)
    (h : late → late') : Agrees w settings base n late' d x := by
  cases hx with
  | idle hk => exact Agrees.idle hk
  | arrived h => exact Agrees.arrived h
  | waiting hk hfew h => exact Agrees.waiting hk hfew h
  | broken h => exact Agrees.broken h
  | stranded hlate hwaits hgiven => exact Agrees.stranded (h hlate) hwaits hgiven

theorem fresh_start {cache : Cache} {key : String} (hd : d.IsValid)
    (hkey : d.kind = .bundled → cacheKey w base (d.url.getD "") = .ok key)
    (hhit : d.kind = .bundled → ∀ content, cached? d key cache = .ok (some content) →
      steadyOutcome w settings base n d = .ok (.content content)) :
    Fresh w settings base n d (start w base cache d) := by
  by_cases hk : d.kind = .bundled
  · rcases start_cases hd hk (hkey hk) with ⟨content, hcached, hstart⟩ | ⟨-, hstart⟩
    · rw [hstart]
      exact Fresh.arrived (hhit hk content hcached)
    · rw [hstart]
      exact Fresh.waiting hk
  · rw [start_unbundled hk]
    exact Fresh.idle hk

/-- An attempt at a steady network agrees with what every attempt brings. -/
theorem agrees_attempt {key : String} {number : Nat} {s : State} (hd : d.IsValid)
    (hk : d.kind = .bundled) (hn : n.Steady) (hs : s.network.replies = n.replies)
    (hlate : Untold settings number → late) (hfew : WaitsTold settings ∨ number ≤ 1025) :
    Agrees w settings base n late d (attempt w settings base d key number s).1 ∧
      (attempt w settings base d key number s).2.network.replies = n.replies := by
  have hanswer : (Fetch.attempt w settings base (d.url.getD "") s.network).1 = _ :=
    attempt_steady hn hs _
  simp only [attempt]
  refine ⟨?_, (goOn_replies _ _ _ _).trans ((attempt_replies _).trans hs)⟩
  rw [hanswer]
  cases hr : (Fetch.attempt w settings base (d.url.getD "") n).1 with
  | error e =>
    refine Agrees.broken ?_
    rw [steadyOutcome, if_pos hk, hr]
  | ok r =>
    rw [goOn_fst hd]
    cases hj : judged d.integrity r with
    | ok content =>
      refine Agrees.arrived ?_
      rw [steadyOutcome, if_pos hk, hr]
      simp only [hj]
    | error fault =>
      have hgiven : steadyOutcome w settings base n d =
          .ok (.givenUp (finalComplaint settings fault.message)) := by
        rw [steadyOutcome, if_pos hk, hr]
        simp only [hj]
      rw [settled]
      split
      · next huntold =>
        exact Agrees.stranded (hlate huntold) (fun h => h.not_untold _ huntold) hgiven
      · next htold =>
        refine Agrees.waiting hk ?_ hgiven
        unfold Untold at htold
        unfold WaitsTold at hfew ⊢
        omega

/-- The first attempt at a download that nothing was asked for comes too soon for a wait that cannot
be told. -/
theorem agrees_first {x : Download} {s : State} (hd : d.IsValid) (hn : n.Steady)
    (hs : s.network.replies = n.replies) (hx : Fresh w settings base n d x) :
    Agrees w settings base n False d (advance w settings base x s).1 ∧
      (advance w settings base x s).2.network.replies = n.replies := by
  cases hx with
  | idle hk => exact ⟨Agrees.idle hk, hs⟩
  | arrived h => exact ⟨Agrees.arrived h, hs⟩
  | @waiting key complaint hk =>
    have hopen : (waiting d key 0 complaint).isOpen settings = true :=
      decide_eq_true (maxAttempts_pos settings)
    rw [advance, if_pos hopen]
    refine agrees_attempt hd hk hn hs (fun huntold => ?_) (Or.inr (by omega))
    exact absurd huntold.2 (by omega)

theorem agrees_advance {x : Download} {s : State} (hd : d.IsValid) (hn : n.Steady)
    (hs : s.network.replies = n.replies) (hx : Agrees w settings base n True d x) :
    Agrees w settings base n True d (advance w settings base x s).1 ∧
      (advance w settings base x s).2.network.replies = n.replies := by
  cases hx with
  | idle hk => exact ⟨Agrees.idle hk, hs⟩
  | arrived h => exact ⟨Agrees.arrived h, hs⟩
  | broken h => exact ⟨Agrees.broken h, hs⟩
  | stranded hlate hwaits h => exact ⟨Agrees.stranded hlate hwaits h, hs⟩
  | waiting hk hfew h =>
    rw [advance]
    split
    · exact agrees_attempt hd hk hn hs (fun _ => trivial)
        (hfew.imp_right fun hfew => Nat.succ_le_succ hfew)
    · exact ⟨Agrees.waiting hk hfew h, hs⟩

/-- A download to which nothing is left and of which nothing was asked needs no attempt. -/
theorem Fresh.of_closed {x : Download} (hx : Fresh w settings base n d x)
    (hclosed : x.isOpen settings = false) : Agrees w settings base n False d x := by
  cases hx with
  | idle hk => exact Agrees.idle hk
  | arrived h => exact Agrees.arrived h
  | waiting hk =>
    rw [isOpen, decide_eq_true (maxAttempts_pos settings)] at hclosed
    cases hclosed

theorem outcome_of_agrees {x : Download} (hx : Agrees w settings base n False d x) :
    x.outcome settings = steadyOutcome w settings base n d := by
  cases hx with
  | idle hk =>
    rw [steadyOutcome, if_neg hk]
    rfl
  | arrived h => exact h.symm
  | broken h => exact h.symm
  | waiting hk hfew h => exact h.symm
  | stranded hlate => exact hlate.elim

/-- A download that neither broke down nor has an attempt left gives what its library does after all
attempts. -/
theorem outcome_eq_lastingOutcome {x : Download} (hx : Agrees w settings base n True d x)
    (hunbroken : x.isBroken = false) (hclosed : x.isOpen settings = false) :
    x.outcome settings = lastingOutcome w settings base n d := by
  unfold lastingOutcome
  cases hx with
  | idle hk =>
    rw [steadyOutcome, if_neg hk]
    rfl
  | arrived h =>
    rw [h]
    rfl
  | broken h => cases hunbroken
  | stranded hlate => cases hunbroken
  | waiting hk hfew h =>
    -- all attempts were made, so they are few enough for every wait to be told
    have hwaits : WaitsTold settings := by
      simp only [isOpen, decide_eq_false_iff_not] at hclosed
      unfold WaitsTold at hfew ⊢
      omega
    rw [h]
    exact (if_pos hwaits).symm

/-- Where every attempt brings an outcome, a download breaks down because a wait cannot be told, and
then its library does. -/
theorem stranded_of_isBroken {x : Download} {o : Outcome} (hx : Agrees w settings base n True d x)
    (ho : steadyOutcome w settings base n d = .ok o) (hbroken : x.isBroken = true) :
    x = .broken (.wait .tooLarge) ∧
      lastingOutcome w settings base n d = .error (.wait .tooLarge) := by
  cases hx with
  | idle hk => cases hbroken
  | arrived h => cases hbroken
  | waiting hk hfew h => cases hbroken
  | broken h => cases ho.symm.trans h
  | stranded hlate hwaits h =>
    refine ⟨rfl, ?_⟩
    rw [lastingOutcome, h]
    exact if_neg hwaits

/-- Where every attempt brings an outcome, only a wait breaks a library down. -/
theorem eq_wait_of_lastingOutcome {o : Outcome} {e : Breakdown}
    (ho : steadyOutcome w settings base n d = .ok o)
    (he : lastingOutcome w settings base n d = .error e) : e = .wait .tooLarge := by
  rw [lastingOutcome, ho] at he
  cases o with
  | unfetched => cases he
  | content text => cases he
  | givenUp complaint =>
    change (if _ then _ else _) = _ at he
    split at he
    · cases he
    · exact (Except.error.inj he).symm

theorem keyed_of_unbundled (hk : d.kind ≠ .bundled) : keyed w base d = .ok () := by
  rw [keyed, if_neg hk]

theorem cacheKey_of_keyed (hk : d.kind = .bundled) (h : keyed w base d = .ok ()) :
    ∃ key, cacheKey w base (d.url.getD "") = .ok key := by
  rw [keyed, if_pos hk] at h
  cases hkey : cacheKey w base (d.url.getD "") with
  | ok key => exact ⟨key, rfl⟩
  | error e =>
    rw [hkey] at h
    cases h

theorem start_of_unkeyed {cache : Cache} {e : Breakdown} (h : keyed w base d = .error e) :
    start w base cache d = .broken e := by
  by_cases hk : d.kind = .bundled
  · rw [keyed, if_pos hk] at h
    unfold start
    rw [if_pos hk]
    cases hkey : cacheKey w base (d.url.getD "") with
    | ok key =>
      rw [hkey] at h
      cases h
    | error e' =>
      rw [hkey] at h
      obtain rfl : e' = e := Except.error.inj h
      rfl
  · rw [keyed_of_unbundled hk] at h
    cases h

theorem isBroken_start_of_keyed (cache : Cache) (hd : d.IsValid) (h : keyed w base d = .ok ()) :
    (start w base cache d).isBroken = false := by
  by_cases hk : d.kind = .bundled
  · obtain ⟨key, hkey⟩ := cacheKey_of_keyed hk h
    rcases start_cases hd hk hkey with ⟨content, -, hstart⟩ | ⟨-, hstart⟩
    · rw [hstart]
      rfl
    · rw [hstart]
      rfl
  · rw [start_unbundled hk]
    rfl

theorem exists_outcome {x : Download} (h : x.isBroken = false) :
    ∃ o, x.outcome settings = .ok o := by
  cases x with
  | broken e => cases h
  | idle => exact ⟨_, rfl⟩
  | arrived content => exact ⟨_, rfl⟩
  | waiting d key attempts complaint => exact ⟨_, rfl⟩

variable (settings) in
/-- Where a library has no key, the first such breaks everything down. -/
theorem mapM_outcome_start (cache : Cache) {ds : List Declaration}
    (hvalid : ∀ d ∈ ds, d.IsValid) {e : Breakdown} (h : ds.mapM (keyed w base) = .error e) :
    (ds.map (start w base cache)).mapM (outcome settings) = .error e ∧
      (ds.map (start w base cache)).any isBroken = true := by
  induction ds with
  | nil => cases h
  | cons d ds ih =>
    rw [List.mapM_cons] at h
    rw [List.map_cons, List.mapM_cons, List.any_cons]
    cases hd : keyed w base d with
    | error e' =>
      rw [hd] at h
      obtain rfl : e' = e := Except.error.inj h
      -- the first library without a key is the first breakdown
      rw [start_of_unkeyed hd]
      exact ⟨rfl, rfl⟩
    | ok u =>
      obtain ⟨o, ho⟩ : ∃ o, (start w base cache d).outcome settings = .ok o :=
        exists_outcome (isBroken_start_of_keyed cache (hvalid d List.mem_cons_self) hd)
      rw [hd] at h
      cases hrest : ds.mapM (keyed w base) with
      | ok us =>
        rw [hrest] at h
        cases h
      | error e' =>
        rw [hrest] at h
        obtain rfl : e' = e := Except.error.inj h
        obtain ⟨hmap, hany⟩ := ih (fun d' hd' => hvalid d' (List.mem_cons_of_mem d hd')) hrest
        rw [ho, hmap, hany, Bool.or_true]
        exact ⟨rfl, rfl⟩

theorem keyed_of_mapM {ds : List Declaration} {us : List Unit}
    (h : ds.mapM (keyed w base) = .ok us) : ∀ d ∈ ds, keyed w base d = .ok () := by
  induction ds generalizing us with
  | nil => simp
  | cons d ds ih =>
    rw [List.mapM_cons] at h
    cases hd : keyed w base d with
    | error e =>
      rw [hd] at h
      cases h
    | ok u =>
      rw [hd] at h
      cases hrest : ds.mapM (keyed w base) with
      | error e =>
        rw [hrest] at h
        cases h
      | ok us' =>
        intro d' hd'
        rcases List.mem_cons.mp hd' with rfl | hd'
        · exact hd
        · exact ih hrest d' hd'

theorem mapM_congr_of_forall₂ {α β γ ε : Type} {f : α → Except ε γ} {g : β → Except ε γ}
    {xs : List α} {ys : List β} (h : List.Forall₂ (fun x y => g y = f x) xs ys) :
    ys.mapM g = xs.mapM f := by
  induction h with
  | nil => rfl
  | cons hxy _ ih => rw [List.mapM_cons, List.mapM_cons, hxy, ih]

theorem forall₂_and_right {α β : Type} {R : α → β → Prop} {p : β → Prop} {xs : List α} {ys : List β}
    (h : List.Forall₂ R xs ys) (hp : ∀ y ∈ ys, p y) :
    List.Forall₂ (fun x y => R x y ∧ p y) xs ys := by
  induction h with
  | nil => exact List.Forall₂.nil
  | cons hxy _ ih =>
    obtain ⟨hy, hys⟩ := List.forall_mem_cons.mp hp
    exact List.Forall₂.cons ⟨hxy, hy⟩ (ih hys)

theorem isBroken_start {ds : List Declaration} {us : List Unit} (cache : Cache)
    (hvalid : ∀ d ∈ ds, d.IsValid) (h : ds.mapM (keyed w base) = .ok us) :
    (ds.map (start w base cache)).any isBroken = false := by
  rw [List.any_eq_false]
  intro x hx
  obtain ⟨d, hd, rfl⟩ := List.mem_map.mp hx
  rw [isBroken_start_of_keyed cache (hvalid d hd) (keyed_of_mapM h d hd)]
  exact Bool.false_ne_true

theorem exists_left_of_forall₂ {α β : Type} {R : α → β → Prop} {xs : List α} {ys : List β} {y : β}
    (h : List.Forall₂ R xs ys) (hy : y ∈ ys) : ∃ x ∈ xs, R x y := by
  induction h with
  | nil => cases hy
  | cons hxy _ ih =>
    rcases List.mem_cons.mp hy with rfl | hy
    · exact ⟨_, List.mem_cons_self, hxy⟩
    · obtain ⟨x, hx, hR⟩ := ih hy
      exact ⟨x, List.mem_cons_of_mem _ hx, hR⟩

/-- Rounds from downloads that nothing was asked for go on, if at all, from what one attempt at each
of them brings. -/
theorem exists_first_round {ds : List Declaration} {xs : List Download} {s : State} (left : Nat)
    (hvalid : ∀ d ∈ ds, d.IsValid) (hn : n.Steady) (hs : s.network.replies = n.replies)
    (hx : List.Forall₂ (Fresh w settings base n) ds xs) (hunbroken : xs.any isBroken = false) :
    ∃ left' xs' s', rounds w settings base (left + 1) xs s = rounds w settings base left' xs' s' ∧
      List.Forall₂ (Agrees w settings base n False) ds xs' ∧ s'.network.replies = n.replies := by
  by_cases hopen : xs.any (isOpen settings) = true
  · let I := fun s : State => s.network.replies = n.replies
    have hstep : ∀ d x s, d ∈ ds ∧ Fresh w settings base n d x → I s →
        Agrees w settings base n False d (advance w settings base x s).1 ∧
          I (advance w settings base x s).2 :=
      fun d x s hx hs => agrees_first (hvalid d hx.1) hn hs hx.2
    obtain ⟨hround, hs'⟩ := round_forall₂ hstep
      ((List.forall₂_and_left _ _).mpr ⟨fun _ h => h, hx⟩) hs
    refine ⟨left, _, _, ?_, hround, hs'⟩
    rw [rounds, if_neg (by rw [hunbroken]; exact Bool.false_ne_true)]
    exact if_pos hopen
  · have hnone : ∀ x ∈ xs, x.isOpen settings = false := by
      intro x hx
      simpa using fun h => hopen (List.any_eq_true.mpr ⟨x, hx, h⟩)
    exact ⟨left + 1, xs, s, rfl,
      (forall₂_and_right hx hnone).imp fun _ _ h => h.1.of_closed h.2, hs⟩

/-- Further rounds keep the agreement. -/
theorem agrees_rounds {ds : List Declaration} {xs : List Download} {s : State} (left : Nat)
    (hvalid : ∀ d ∈ ds, d.IsValid) (hn : n.Steady) (hs : s.network.replies = n.replies)
    (hx : List.Forall₂ (Agrees w settings base n True) ds xs) :
    List.Forall₂ (Agrees w settings base n True) ds (rounds w settings base left xs s).1 := by
  let P := fun d x => d ∈ ds ∧ Agrees w settings base n True d x
  let I := fun s : State => s.network.replies = n.replies
  have hstep : ∀ d x s, P d x → I s →
      P d (advance w settings base x s).1 ∧ I (advance w settings base x s).2 := by
    intro d x s hx hs
    obtain ⟨h, h'⟩ := agrees_advance (hvalid d hx.1) hn hs hx.2
    exact ⟨⟨hx.1, h⟩, h'⟩
  have hstart : List.Forall₂ P ds xs := (List.forall₂_and_left _ _).mpr ⟨fun _ h => h, hx⟩
  exact (rounds_forall₂ hstep left hstart hs).1.imp fun _ _ h => h.2

theorem rounds_of_broken {xs : List Download} (h : xs.any isBroken = true) (left : Nat)
    (s : State) :
    (rounds w settings base left xs s).1 = xs := by
  cases left with
  | zero => simp only [rounds, if_pos h]
  | succ left => simp only [rounds, if_pos h]

/-- Where every attempt brings an outcome, downloads that are over give what their libraries do
after all attempts. -/
theorem mapM_outcome_of_agrees {ds : List Declaration} {xs : List Download} {os : List Outcome}
    (hos : ds.mapM (steadyOutcome w settings base n) = .ok os)
    (hx : List.Forall₂ (Agrees w settings base n True) ds xs)
    (hover : xs.any isBroken = true ∨ ∀ x ∈ xs, x.isOpen settings = false) :
    xs.mapM (outcome settings) = ds.mapM (lastingOutcome w settings base n) := by
  have hcomes : ∀ d ∈ ds, ∃ o, steadyOutcome w settings base n d = .ok o := by
    intro d hd
    cases ho : steadyOutcome w settings base n d with
    | ok o => exact ⟨o, rfl⟩
    | error e =>
      obtain ⟨e', he'⟩ := Except.fails_mapM.mpr ⟨d, hd, e, ho⟩
      cases hos.symm.trans he'
  -- what breaks down among them does so because of a wait
  have hstranded : ∀ x ∈ xs, x.isBroken = true → x = .broken (.wait .tooLarge) ∧
      ∃ d ∈ ds, lastingOutcome w settings base n d = .error (.wait .tooLarge) := by
    intro x hmem hbroken
    obtain ⟨d, hd, hagrees⟩ := exists_left_of_forall₂ hx hmem
    obtain ⟨o, ho⟩ := hcomes d hd
    obtain ⟨hwait, hlasting⟩ := stranded_of_isBroken hagrees ho hbroken
    exact ⟨hwait, d, hd, hlasting⟩
  by_cases hbroken : xs.any isBroken = true
  · obtain ⟨x, hmem, hx⟩ := List.any_eq_true.mp hbroken
    obtain ⟨-, d, hd, hlasting⟩ := hstranded x hmem hx
    have hdownloads : xs.mapM (outcome settings) = .error (.wait .tooLarge) := by
      refine Except.mapM_eq_error (fun y hy e he => ?_) ⟨x, hmem, fails_outcome.mpr hx⟩
      obtain ⟨rfl, -⟩ := hstranded y hy (fails_outcome.mp ⟨e, he⟩)
      exact (Except.error.inj he).symm
    have hlibraries : ds.mapM (lastingOutcome w settings base n) = .error (.wait .tooLarge) := by
      refine Except.mapM_eq_error (fun d hd e he => ?_) ⟨d, hd, _, hlasting⟩
      obtain ⟨o, ho⟩ := hcomes d hd
      exact eq_wait_of_lastingOutcome ho he
    rw [hdownloads, hlibraries]
  · have hclosed := hover.resolve_left hbroken
    have hunbroken : ∀ x ∈ xs, x.isBroken = false := by
      intro x hx
      simpa using fun h => hbroken (List.any_eq_true.mpr ⟨x, hx, h⟩)
    refine mapM_congr_of_forall₂ ?_
    exact (forall₂_and_right hx fun x hx => And.intro (hunbroken x hx) (hclosed x hx)).imp
      fun _ _ h => outcome_eq_lastingOutcome h.1 h.2.1 h.2.2

variable (w settings base) in
/-- Where every attempt at a location brings the same, and cached content is what an attempt brings,
libraries give what one attempt at each of them tells, if the waits between attempts can be told. -/
theorem fetchAll_steady {ds : List Declaration} {s : State} (hvalid : ∀ d ∈ ds, d.IsValid)
    (hn : n.Steady) (hs : s.network.replies = n.replies)
    (hhit : ∀ d ∈ ds, d.kind = .bundled → ∀ key content,
      cacheKey w base (d.url.getD "") = .ok key → cached? d key s.cache = .ok (some content) →
      steadyOutcome w settings base n d = .ok (.content content)) :
    (fetchAll w settings base ds s).1 =
      (ds.mapM (keyed w base)).bind fun _ => (ds.mapM (steadyOutcome w settings base n)).bind fun _ =>
        ds.mapM (lastingOutcome w settings base n) := by
  unfold fetchAll
  -- a library without a key breaks everything down before any attempt
  cases hkeys : ds.mapM (keyed w base) with
  | error e =>
    obtain ⟨hmap, hbroken⟩ := mapM_outcome_start settings s.cache hvalid hkeys
    simp only [rounds_of_broken hbroken, hmap]
    rfl
  | ok us =>
    have hstart : List.Forall₂ (Fresh w settings base n) ds (ds.map (start w base s.cache)) := by
      rw [List.forall₂_map_right_iff, List.forall₂_same]
      intro d hd
      by_cases hk : d.kind = .bundled
      · obtain ⟨key, hkey⟩ := cacheKey_of_keyed hk (keyed_of_mapM hkeys d hd)
        exact fresh_start (hvalid d hd) (fun _ => hkey) fun _ content hcached =>
          hhit d hd hk key content hkey hcached
      · rw [start_unbundled hk]
        exact Fresh.idle hk
    have hclosed := fetchAll_closed w settings base ds s
    obtain ⟨left, hleft⟩ := Nat.exists_eq_succ_of_ne_zero (maxAttempts_pos settings).ne'
    obtain ⟨left', xs, s', hrounds, hfirst, hs'⟩ := exists_first_round left hvalid hn hs hstart
      (isBroken_start s.cache hvalid hkeys)
    rw [hleft, hrounds] at hclosed
    have hasked : xs.mapM (outcome settings) = ds.mapM (steadyOutcome w settings base n) :=
      mapM_congr_of_forall₂ (hfirst.imp fun _ _ h => outcome_of_agrees h)
    simp only [hleft, hrounds]
    cases hos : ds.mapM (steadyOutcome w settings base n) with
    -- an attempt that breaks down does so in the first round, and ends all
    | error e =>
      obtain ⟨x, hx, hfails⟩ := Except.fails_mapM.mp ⟨e, hasked.trans hos⟩
      have hbroken : xs.any isBroken = true := List.any_eq_true.mpr ⟨x, hx, fails_outcome.mp hfails⟩
      rw [rounds_of_broken hbroken, hasked, hos]
      rfl
    | ok os =>
      have hend := agrees_rounds left' hvalid hn hs' (hfirst.imp fun _ _ h => h.mono False.elim)
      exact mapM_outcome_of_agrees hos hend hclosed

end Download
end Storybind
