import Mathlib.Tactic
import Storybind.Dependency.Bundle
import Storybind.Proofs.Dependency.Broken

/-!
The turns of one library. Between two of them anything may happen to the files, the network and the
cache. One attempt is made in a turn, after which there is a wait, the content is kept, or the
library is given up; where nothing happens between them, the turns of a library alone are the rounds
of fetching it.
-/

namespace Storybind

open Fetch

namespace Fetch

/-- The wait after an attempt is the one of its number. -/
theorem waitAfter_eq (settings : Settings) {number : Nat} (s : State) (hpos : 0 < number)
    (hfew : number ≤ 1024) (hleft : number < maxAttempts settings) :
    s.waitAfter settings number = .ok { s with
      network := s.network.wait (backoff number settings.backoffBase settings.backoffCap) } := by
  have htell : backoff? number settings.backoffBase settings.backoffCap =
      .ok (backoff number settings.backoffBase settings.backoffCap) := by
    rw [backoff?, if_neg (by omega), if_pos (by omega), Int.toNat_natCast]
  rw [State.waitAfter, if_pos hleft, htell]

end Fetch

namespace Download

section

variable (settings : Settings) (base : Option Path) (d : Declaration)
  (worlds : Nat → Workspace × State)

/-- A library on its way after some turns, each of them in a world of its own. -/
def stage : Nat → Download
  | 0 => start (worlds 0).1 base (worlds 0).2.cache d
  | j + 1 => (advance (worlds j).1 settings base (stage j) (worlds j).2).1

/-- What a turn leaves of the state that it finds. -/
def leftBy (j : Nat) : State :=
  (advance (worlds j).1 settings base (stage settings base d worlds j) (worlds j).2).2

/-- The state that a turn finds, after one attempt at the library. -/
def fetched (j : Nat) : State :=
  { (worlds j).2 with
    network := (Fetch.attempt (worlds j).1 settings base (d.url.getD "") (worlds j).2.network).2 }

/-- The same, after the wait that follows. -/
def waited (j : Nat) : State :=
  { fetched settings base d worlds j with
    network := (fetched settings base d worlds j).network.wait
      (backoff (j + 1) settings.backoffBase settings.backoffCap) }

/-- The same, with content in the cache. -/
def stored (key content : String) (j : Nat) : State :=
  { fetched settings base d worlds j with
    cache := (fetched settings base d worlds j).cache.put key content }

/-- The attempt of a turn brings a fault, or content that is not accepted. -/
def Rejected (j : Nat) (fault : Fault) : Prop :=
  ∃ r, (Fetch.attempt (worlds j).1 settings base (d.url.getD "") (worlds j).2.network).1 = .ok r ∧
    judged d.integrity r = .error fault

/-- Turn `k` brings content: there is a wait after every attempt before, the content is kept, and
then nothing is done any more. -/
structure Delivers (key content : String) (k : Nat) : Prop where
  waits : ∀ i < k, leftBy settings base d worlds i = waited settings base d worlds i
  keeps : leftBy settings base d worlds k = stored settings base d worlds key content k
  ends : ∀ j > k, stage settings base d worlds j = .arrived content ∧
    leftBy settings base d worlds j = (worlds j).2

/-- No content comes in `k` turns: there is a wait after every attempt but the last one, and then
nothing is done any more. -/
structure Exhausts (k : Nat) (x : Download) : Prop where
  waits : ∀ i, i + 1 < k → leftBy settings base d worlds i = waited settings base d worlds i
  last : ∀ i, i + 1 = k → leftBy settings base d worlds i = fetched settings base d worlds i
  ends : ∀ j ≥ k, stage settings base d worlds j = x ∧
    leftBy settings base d worlds j = (worlds j).2

/-- Whether nothing happens between turns. -/
structure Undisturbed (w : Workspace) : Prop where
  files : ∀ j, (worlds j).1 = w
  states : ∀ j, (worlds (j + 1)).2 = leftBy settings base d worlds j

/-- The worlds of a library between whose turns nothing happens. -/
def ownWorlds (w : Workspace) (s : State) (j : Nat) : Workspace × State :=
  (w, ((fun x => advance w settings base x.1 x.2)^[j] (start w base s.cache d, s)).2)

theorem undisturbed_ownWorlds (w : Workspace) (s : State) :
    Undisturbed settings base d (ownWorlds settings base d w s) w := by
  have hstage (j : Nat) : stage settings base d (ownWorlds settings base d w s) j =
      ((fun x => advance w settings base x.1 x.2)^[j] (start w base s.cache d, s)).1 := by
    induction j with
    | zero => rfl
    | succ j ih =>
      rw [stage, ih, Function.iterate_succ_apply']
      rfl
  refine ⟨fun j => rfl, fun j => ?_⟩
  rw [leftBy, hstage, ownWorlds, Function.iterate_succ_apply']
  rfl

end

variable {settings : Settings} {base : Option Path} {d : Declaration}
  {worlds : Nat → Workspace × State} {key complaint content : String} {fault : Fault} {j k : Nat}

/-! ### One turn -/

/-- A turn of a library with an attempt left is that attempt. -/
theorem advance_waiting {w : Workspace} {s : State} (hleft : j < maxAttempts settings) :
    advance w settings base (.waiting d key j complaint) s =
      attempt w settings base d key (j + 1) s := by
  have hopen : (waiting d key j complaint).isOpen settings = true := decide_eq_true hleft
  rw [advance, if_pos hopen]

theorem turn_content {r : Except Fault Bytes} (hd : d.IsValid)
    (hstage : stage settings base d worlds j = .waiting d key j complaint)
    (hleft : j < maxAttempts settings)
    (hr : (Fetch.attempt (worlds j).1 settings base (d.url.getD "") (worlds j).2.network).1 = .ok r)
    (hj : judged d.integrity r = .ok content) :
    stage settings base d worlds (j + 1) = .arrived content ∧
      leftBy settings base d worlds j = stored settings base d worlds key content j := by
  have hturn : attempt (worlds j).1 settings base d key (j + 1) (worlds j).2 =
      (.arrived content, stored settings base d worlds key content j) := by
    simp only [attempt, goOn]
    rw [hr, takeIn_ok hd, hj]
    rfl
  rw [stage, leftBy, hstage, advance_waiting hleft, hturn]
  exact ⟨rfl, rfl⟩

theorem turn_fault (hd : d.IsValid)
    (hstage : stage settings base d worlds j = .waiting d key j complaint)
    (hleft : j < maxAttempts settings) (hj : Rejected settings base d worlds j fault) :
    advance (worlds j).1 settings base (stage settings base d worlds j) (worlds j).2 =
      match (fetched settings base d worlds j).waitAfter settings (j + 1) with
      | .error e => (.broken e, fetched settings base d worlds j)
      | .ok s => (.waiting d key (j + 1) fault.message, s) := by
  obtain ⟨r, hr, hj⟩ := hj
  rw [hstage, advance_waiting hleft]
  simp only [attempt, goOn]
  rw [hr, takeIn_ok hd, hj]
  rfl

/-- After a fault that leaves an attempt there is a wait. -/
theorem turn_waits (hd : d.IsValid)
    (hstage : stage settings base d worlds j = .waiting d key j complaint)
    (hnext : j + 1 < maxAttempts settings) (hfew : j + 1 ≤ 1024)
    (hj : Rejected settings base d worlds j fault) :
    stage settings base d worlds (j + 1) = .waiting d key (j + 1) fault.message ∧
      leftBy settings base d worlds j = waited settings base d worlds j := by
  have hturn := turn_fault hd hstage (Nat.lt_of_succ_lt hnext) hj
  rw [waitAfter_eq settings _ (Nat.succ_pos j) hfew hnext] at hturn
  rw [stage, leftBy, hturn]
  exact ⟨rfl, rfl⟩

/-- After the last fault there is none. -/
theorem turn_last (hd : d.IsValid)
    (hstage : stage settings base d worlds j = .waiting d key j complaint)
    (hlast : j + 1 = maxAttempts settings) (hj : Rejected settings base d worlds j fault) :
    stage settings base d worlds (j + 1) = .waiting d key (j + 1) fault.message ∧
      leftBy settings base d worlds j = fetched settings base d worlds j := by
  have hturn := turn_fault hd hstage (by omega) hj
  rw [State.waitAfter, if_neg (by omega)] at hturn
  rw [stage, leftBy, hturn]
  exact ⟨rfl, rfl⟩

theorem turn_stranded (hd : d.IsValid)
    (hstage : stage settings base d worlds j = .waiting d key j complaint)
    (huntold : Untold settings (j + 1)) (hj : Rejected settings base d worlds j fault) :
    stage settings base d worlds (j + 1) = .broken (.wait .tooLarge) ∧
      leftBy settings base d worlds j = fetched settings base d worlds j := by
  have hturn := turn_fault hd hstage (Nat.lt_of_succ_lt huntold.1) hj
  rcases waitAfter_cases settings (j + 1) (fetched settings base d worlds j) with
    ⟨-, hwait⟩ | ⟨htold, -⟩
  · rw [hwait] at hturn
    rw [stage, leftBy, hturn]
    exact ⟨rfl, rfl⟩
  · exact absurd huntold htold

/-! ### All turns -/

/-- Faults lead from turn to turn, with a wait after each. -/
theorem stage_of_rejected (hd : d.IsValid)
    (hstart : stage settings base d worlds 0 = .waiting d key 0 complaint)
    (hleft : k < maxAttempts settings) (hfew : k ≤ 1024)
    (hrejected : ∀ i < k, ∃ fault, Rejected settings base d worlds i fault) :
    (∃ complaint, stage settings base d worlds k = .waiting d key k complaint) ∧
      ∀ i < k, leftBy settings base d worlds i = waited settings base d worlds i := by
  induction k with
  | zero => exact ⟨⟨_, hstart⟩, nofun⟩
  | succ k ih =>
    obtain ⟨⟨complaint, hstage⟩, hwaits⟩ := ih (by omega) (by omega)
      fun i hi => hrejected i (Nat.lt_succ_of_lt hi)
    obtain ⟨fault, hfault⟩ := hrejected k (Nat.lt_succ_self k)
    obtain ⟨hnext, hwait⟩ := turn_waits hd hstage hleft hfew hfault
    refine ⟨⟨_, hnext⟩, fun i hi => ?_⟩
    rcases Nat.lt_succ_iff_lt_or_eq.mp hi with hi | rfl
    · exact hwaits i hi
    · exact hwait

/-- A library without an attempt left stays as it is, and does nothing. -/
theorem stage_of_closed {x : Download} (hstage : stage settings base d worlds k = x)
    (hclosed : x.isOpen settings = false) (j : Nat) (hj : k ≤ j) :
    stage settings base d worlds j = x ∧ leftBy settings base d worlds j = (worlds j).2 := by
  have hsame : stage settings base d worlds j = x := by
    induction j, hj using Nat.le_induction with
    | base => exact hstage
    | succ j _ ih => rw [stage, ih, advance_of_closed hclosed]
  refine ⟨hsame, ?_⟩
  rw [leftBy, hsame, advance_of_closed hclosed]

theorem delivers_of_accepted {r : Except Fault Bytes} (hd : d.IsValid)
    (hstart : stage settings base d worlds 0 = .waiting d key 0 complaint)
    (hleft : k < maxAttempts settings) (hfew : k ≤ 1024)
    (hrejected : ∀ i < k, ∃ fault, Rejected settings base d worlds i fault)
    (hr : (Fetch.attempt (worlds k).1 settings base (d.url.getD "") (worlds k).2.network).1 = .ok r)
    (hj : judged d.integrity r = .ok content) :
    Delivers settings base d worlds key content k := by
  obtain ⟨⟨complaint, hstage⟩, hwaits⟩ := stage_of_rejected hd hstart hleft hfew hrejected
  obtain ⟨harrived, hkeeps⟩ := turn_content hd hstage hleft hr hj
  exact ⟨hwaits, hkeeps, fun j hj => stage_of_closed harrived rfl j hj⟩

/-- Where the turn after some faults is the last one, no content comes. -/
theorem exhausts_of_last {x : Download} (hd : d.IsValid)
    (hstart : stage settings base d worlds 0 = .waiting d key 0 complaint)
    (hleft : k < maxAttempts settings) (hfew : k ≤ 1024)
    (hrejected : ∀ i < k, ∃ fault, Rejected settings base d worlds i fault)
    (hlast : ∀ complaint, stage settings base d worlds k = .waiting d key k complaint →
      stage settings base d worlds (k + 1) = x ∧
        leftBy settings base d worlds k = fetched settings base d worlds k)
    (hclosed : x.isOpen settings = false) :
    Exhausts settings base d worlds (k + 1) x := by
  obtain ⟨⟨complaint, hstage⟩, hwaits⟩ := stage_of_rejected hd hstart hleft hfew hrejected
  obtain ⟨hend, hleft⟩ := hlast complaint hstage
  refine ⟨fun i hi => hwaits i (Nat.lt_of_succ_lt_succ hi), ?_,
    fun j hj => stage_of_closed hend hclosed j hj⟩
  rintro i hi
  obtain rfl : i = k := Nat.succ_injective hi
  exact hleft

/-- Undisturbed, a library without an attempt left leaves the state as it is. -/
theorem worlds_of_closed {w : Workspace} (h : Undisturbed settings base d worlds w)
    (hclosed : (stage settings base d worlds j).isOpen settings = false) (left : Nat) :
    stage settings base d worlds (j + left) = stage settings base d worlds j ∧
      (worlds (j + left)).2 = (worlds j).2 := by
  refine ⟨(stage_of_closed rfl hclosed (j + left) (Nat.le_add_right j left)).1, ?_⟩
  induction left with
  | zero => rfl
  | succ left ih =>
    have hstep := h.states (j + left)
    rw [(stage_of_closed rfl hclosed (j + left) (Nat.le_add_right j left)).2, ih] at hstep
    exact hstep

theorem round_singleton {w : Workspace} (h : Undisturbed settings base d worlds w) (j : Nat) :
    round w settings base [stage settings base d worlds j] (worlds j).2 =
      ([stage settings base d worlds (j + 1)], (worlds (j + 1)).2) := by
  rw [h.states j, stage, leftBy, h.files j]
  rfl

/-- The rounds of a library alone are its turns. -/
theorem rounds_singleton {w : Workspace} (h : Undisturbed settings base d worlds w) (left j : Nat) :
    rounds w settings base left [stage settings base d worlds j] (worlds j).2 =
      ([stage settings base d worlds (j + left)], (worlds (j + left)).2) := by
  induction left generalizing j with
  | zero =>
    by_cases hbroken : (stage settings base d worlds j).isBroken = true
    · exact rounds_of_closed (List.forall_mem_singleton.mpr (isOpen_of_isBroken hbroken)) 0 _
    · rw [rounds, if_neg (by simpa using hbroken)]
      rfl
  | succ left ih =>
    cases hopen : (stage settings base d worlds j).isOpen settings with
    | false =>
      obtain ⟨hstage, hstate⟩ := worlds_of_closed h hopen (left + 1)
      rw [rounds_of_closed (List.forall_mem_singleton.mpr hopen), hstage, hstate]
    | true =>
      -- an open library is not broken, so the next round is its next turn
      have hunbroken : ¬[stage settings base d worlds j].any isBroken = true := by
        intro hbroken
        rw [List.any_cons, List.any_nil, Bool.or_false] at hbroken
        rw [isOpen_of_isBroken hbroken] at hopen
        cases hopen
      have hsome : [stage settings base d worlds j].any (isOpen settings) = true := by
        rw [List.any_cons, hopen, Bool.true_or]
      rw [rounds, if_neg hunbroken]
      simp only
      rw [if_pos hsome, round_singleton h]
      simp only
      rw [ih, Nat.add_right_comm]
      rfl

end Download

namespace Bundle

open Download

variable {settings : Settings} {base : Option Path} {d : Declaration}
  {worlds : Nat → Workspace × State} {key : String}

/-- The bundle of a library after all its turns. -/
def ofTurns (settings : Settings) (base : Option Path) (d : Declaration)
    (worlds : Nat → Workspace × State) (minify : Bool) : Except Breakdown Bundle :=
  ((stage settings base d worlds (maxAttempts settings)).outcome settings).map fun o =>
    ofOutcomes minify (worlds (maxAttempts settings)).2.cache [(d, o)]

/-- Resolving a library alone takes its turns, undisturbed. -/
theorem resolve_singleton {w : Workspace} (h : Undisturbed settings base d worlds w)
    (minify : Bool) :
    resolve w settings base minify [d] (worlds 0).2 =
      (ofTurns settings base d worlds minify, (worlds (maxAttempts settings)).2) := by
  have hone : Declaration.byPriority [d] = [d] := List.mergeSort_singleton d
  have hstart : [d].map (start w base (worlds 0).2.cache) = [stage settings base d worlds 0] := by
    rw [stage, h.files 0]
    rfl
  simp only [resolve, fetchAll, hone, hstart, rounds_singleton h, Nat.zero_add, ofTurns,
    List.mapM_cons, List.mapM_nil]
  cases (stage settings base d worlds (maxAttempts settings)).outcome settings with
  | error e => rfl
  | ok o => rfl

theorem stage_zero (hd : d.IsValid) (hk : d.kind = .bundled)
    (hkey : cacheKey (worlds 0).1 base (d.url.getD "") = .ok key)
    (hmiss : cached? d key (worlds 0).2.cache = .ok none) :
    stage settings base d worlds 0 = .waiting d key 0 "no attempt made" := by
  rcases start_cases hd hk hkey with ⟨content, hhit, -⟩ | ⟨-, hstart⟩
  · cases hmiss.symm.trans hhit
  · exact hstart

variable {complaint : String}

theorem exhausts_of_untold (hd : d.IsValid)
    (hstart : stage settings base d worlds 0 = .waiting d key 0 complaint)
    (hmany : 1025 < maxAttempts settings)
    (hrejected : ∀ i < 1025, ∃ fault, Rejected settings base d worlds i fault) :
    Exhausts settings base d worlds 1025 (.broken (.wait .tooLarge)) := by
  obtain ⟨fault, hlast⟩ := hrejected 1024 (Nat.lt_succ_self _)
  exact exhausts_of_last hd hstart (Nat.lt_of_succ_lt hmany) (Nat.le_refl _)
    (fun i hi => hrejected i (Nat.lt_succ_of_lt hi))
    (fun complaint hstage => turn_stranded hd hstage ⟨hmany, Nat.lt_succ_self _⟩ hlast) rfl

section

variable {w : Workspace} {s : State} (hd : d.IsValid) (hk : d.kind = .bundled)
  (hkey : cacheKey w base (d.url.getD "") = .ok key) (hmiss : cached? d key s.cache = .ok none)
  (hmany : 1025 < maxAttempts settings)
  (hfaults : ∀ n, ∃ r fault, (attempt w settings base (d.url.getD "") n).1 = .ok r ∧
    judged d.integrity r = .error fault)

include hd hk hkey hmiss hmany hfaults

/-- A library that every attempt brings a fault for is stranded once a wait that is due cannot be
told. -/
theorem stage_of_untold {j : Nat} (hj : 1025 ≤ j) :
    stage settings base d (ownWorlds settings base d w s) j = .broken (.wait .tooLarge) := by
  have hstart : stage settings base d (ownWorlds settings base d w s) 0 =
      .waiting d key 0 "no attempt made" := stage_zero hd hk hkey hmiss
  have hrejected (i : Nat) :
      ∃ fault, Rejected settings base d (ownWorlds settings base d w s) i fault := by
    obtain ⟨r, fault, hr, hj⟩ := hfaults (ownWorlds settings base d w s i).2.network
    exact ⟨fault, r, hr, hj⟩
  exact ((exhausts_of_untold hd hstart hmany fun i _ => hrejected i).ends j hj).1

theorem resolve_of_untold (minify : Bool) :
    (resolve w settings base minify [d] s).1 = .error (.wait .tooLarge) := by
  have hresolve := resolve_singleton (undisturbed_ownWorlds settings base d w s) minify
  rw [ofTurns, stage_of_untold hd hk hkey hmiss hmany hfaults (Nat.le_of_lt hmany)] at hresolve
  exact congrArg Prod.fst hresolve

end

end Bundle
end Storybind
