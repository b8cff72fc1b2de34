import Mathlib.Tactic
import Storybind.Proofs.Dependency.Isolation
import Storybind.Proofs.Dependency.Resolution
import Storybind.Proofs.Dependency.Turns

/-!
The attempts at one library: as many as it takes to bring content, with the wait of each number
between them, or as many as there are.
-/

namespace Storybind.Bundle

open Fetch Download

variable {settings : Settings} {base : Option Path} {d : Declaration}
  {worlds : Nat → Workspace × State} {key complaint : String}

theorem ofTurns_of_delivers {content : String} {k : Nat}
    (h : Delivers settings base d worlds key content k) (hk : k < maxAttempts settings)
    (minify : Bool) :
    ∃ b, ofTurns settings base d worlds minify = .ok b ∧ b.warnings = [] ∧
      b.resolved = [.ofContent d minify content] ∧ b.dropped = [] := by
  rw [ofTurns, (h.ends _ hk).1]
  exact ⟨_, rfl, rfl, rfl, rfl⟩

theorem exhausts_of_rejected (hd : d.IsValid)
    (hstart : stage settings base d worlds 0 = .waiting d key 0 complaint)
    {faults : Nat → Fault} (hfew : maxAttempts settings ≤ 1025)
    (hrejected : ∀ i < maxAttempts settings, Rejected settings base d worlds i (faults i)) :
    Exhausts settings base d worlds (maxAttempts settings)
      (.waiting d key (maxAttempts settings) (faults (maxAttempts settings - 1)).message) := by
  obtain ⟨k, hN⟩ := Nat.exists_eq_succ_of_ne_zero (maxAttempts_pos settings).ne'
  have hclosed : (waiting d key (k + 1) (faults k).message).isOpen settings = false := by
    rw [isOpen, decide_eq_false_iff_not]
    omega
  rw [hN]
  exact exhausts_of_last hd hstart (by omega) (by omega)
    (fun i hi => ⟨_, hrejected i (by omega)⟩)
    (fun complaint hstage => turn_last hd hstage hN.symm (hrejected k (by omega))) hclosed

theorem ofTurns_of_exhausts {message : String}
    (h : Exhausts settings base d worlds (maxAttempts settings)
      (.waiting d key (maxAttempts settings) message)) (minify : Bool) :
    ∃ b, ofTurns settings base d worlds minify = .ok b ∧ b.resolved = [] ∧ b.dropped = [d.name] ∧
      b.warnings = ["Failed to bundle " ++ d.name ++ ": " ++ ("gave up after " ++
        toString (maxAttempts settings) ++ " attempts: " ++ message)] := by
  rw [ofTurns, (h.ends _ (Nat.le_refl _)).1]
  exact ⟨_, rfl, rfl, rfl, rfl⟩

variable (settings base worlds) in
/-- A bundled library that is not answered from the cache is fetched until a body is accepted, with
the wait of each number after every attempt before; that body is decoded and kept. If none is
accepted, as many attempts are made as there are, and the library is dropped with one warning about
the last of them; but where a wait that is due cannot be told, all breaks down. Resolving the
library alone does the same. -/
theorem retried_until_accepted (hd : d.IsValid) (hk : d.kind = .bundled)
    (hkey : cacheKey (worlds 0).1 base (d.url.getD "") = .ok key)
    (hmiss : cached? d key (worlds 0).2.cache = .ok none) (minify : Bool) :
    (∀ k bytes, k < maxAttempts settings → k ≤ 1024 →
        (∀ i < k, ∃ fault, Rejected settings base d worlds i fault) →
        (attempt (worlds k).1 settings base (d.url.getD "") (worlds k).2.network).1 =
          .ok (.ok bytes) → accepts d.integrity bytes →
        Delivers settings base d worlds key (Text.decodeLossy bytes) k ∧
          ∃ b, ofTurns settings base d worlds minify = .ok b ∧ b.warnings = [] ∧
            b.resolved = [.ofContent d minify (Text.decodeLossy bytes)] ∧ b.dropped = []) ∧
      (∀ faults : Nat → Fault, maxAttempts settings ≤ 1025 →
        (∀ i < maxAttempts settings, Rejected settings base d worlds i (faults i)) →
        Exhausts settings base d worlds (maxAttempts settings)
            (.waiting d key (maxAttempts settings) (faults (maxAttempts settings - 1)).message) ∧
          ∃ b, ofTurns settings base d worlds minify = .ok b ∧ b.resolved = [] ∧
            b.dropped = [d.name] ∧
            b.warnings = ["Failed to bundle " ++ d.name ++ ": " ++ ("gave up after " ++
              toString (maxAttempts settings) ++ " attempts: " ++
              (faults (maxAttempts settings - 1)).message)]) ∧
      (1025 < maxAttempts settings →
        (∀ i < 1025, ∃ fault, Rejected settings base d worlds i fault) →
        Exhausts settings base d worlds 1025 (.broken (.wait .tooLarge)) ∧
          ofTurns settings base d worlds minify = .error (.wait .tooLarge)) ∧
      ∀ w, Undisturbed settings base d worlds w →
        resolve w settings base minify [d] (worlds 0).2 =
          (ofTurns settings base d worlds minify, (worlds (maxAttempts settings)).2) := by
  have hstart : stage settings base d worlds 0 = _ := stage_zero hd hk hkey hmiss
  refine ⟨?_, ?_, ?_, fun w h => resolve_singleton h minify⟩
  · intro k bytes hleft hfew hrejected hbytes haccepts
    have hjudged : judged d.integrity (.ok bytes) = .ok (Text.decodeLossy bytes) := if_pos haccepts
    have hdelivers := delivers_of_accepted hd hstart hleft hfew hrejected hbytes hjudged
    exact ⟨hdelivers, ofTurns_of_delivers hdelivers hleft minify⟩
  · intro faults hfew hrejected
    have hexhausts := exhausts_of_rejected hd hstart hfew hrejected
    exact ⟨hexhausts, ofTurns_of_exhausts hexhausts minify⟩
  · intro hmany hrejected
    have hexhausts := exhausts_of_untold hd hstart hmany hrejected
    refine ⟨hexhausts, ?_⟩
    rw [ofTurns, (hexhausts.ends _ (Nat.le_of_lt hmany)).1]
    rfl

/-- The library of the stall that arrives at the second attempt. -/
def kit : Declaration := stallLibrary "kit" "https://a.example/kit.js" .script 60

def stallState : State := ⟨stall, .empty true⟩

def kitWorlds : Nat → Workspace × State :=
  ownWorlds stallSettings none kit stallWorkspace stallState

def lookWorlds : Nat → Workspace × State :=
  ownWorlds stallSettings none look stallWorkspace stallState

/-- What the library of the stall that never arrives meets. -/
def lookFaults : Nat → Fault
  | 0 => .request (.failure "ConnectError" "refused")
  | _ => .request (.status 500 "https://b.example/look.css")

/-- A script comes after one timeout and one wait; a style sheet that is refused and then not served
is dropped. -/
theorem retried_until_accepted_stall :
    kit.IsValid ∧ kit.kind = .bundled ∧
      cacheKey stallWorkspace none (kit.url.getD "") = .ok "https://a.example/kit.js" ∧
      cached? kit "https://a.example/kit.js" stallState.cache = .ok none ∧
      Delivers stallSettings none kit kitWorlds "https://a.example/kit.js" "v1" 1 ∧
      (∃ b, resolve stallWorkspace stallSettings none false [kit] stallState =
        (.ok b, (kitWorlds 2).2) ∧ b.resolved = [.ofContent kit false "v1"]) ∧
      Exhausts stallSettings none look lookWorlds 2 (.waiting look "https://b.example/look.css" 2
        (lookFaults 1).message) ∧
      ∃ b, resolve stallWorkspace stallSettings none false [look] stallState =
        (.ok b, (lookWorlds 2).2) ∧ b.dropped = ["look"] := by
  have hkit : kit.IsValid := ⟨by decide, by decide, nofun⟩
  have hlook : look.IsValid := ⟨by decide, by decide, nofun⟩
  have hkitWorlds : Undisturbed stallSettings none kit kitWorlds stallWorkspace :=
    undisturbed_ownWorlds stallSettings none kit stallWorkspace stallState
  have hlookWorlds : Undisturbed stallSettings none look lookWorlds stallWorkspace :=
    undisturbed_ownWorlds stallSettings none look stallWorkspace stallState
  have hmax : maxAttempts stallSettings = 2 := by decide
  have hkitFaults : ∀ i < 1, ∃ fault, Rejected stallSettings none kit kitWorlds i fault := by
    intro i hi
    obtain rfl := Nat.lt_one_iff.mp hi
    exact ⟨.timeout 20, _, rfl, rfl⟩
  have hlookFaults : ∀ i < 2, Rejected stallSettings none look lookWorlds i (lookFaults i) := by
    intro i hi
    obtain rfl | rfl : i = 0 ∨ i = 1 := by omega
    · exact ⟨_, rfl, rfl⟩
    · exact ⟨_, rfl, rfl⟩
  obtain ⟨harrives, -, -, hkitAlone⟩ :=
    retried_until_accepted stallSettings none kitWorlds hkit rfl rfl rfl false
  obtain ⟨-, hdropped, -, hlookAlone⟩ :=
    retried_until_accepted stallSettings none lookWorlds hlook rfl rfl rfl false
  obtain ⟨hdelivers, b, hb, -, hresolved, -⟩ :=
    harrives 1 [118, 49] (by decide) (by decide) hkitFaults rfl (by decide)
  obtain ⟨hexhausts, b', hb', -, hnames, -⟩ := hdropped lookFaults (by decide) hlookFaults
  have hkitResolve := hkitAlone stallWorkspace hkitWorlds
  have hlookResolve := hlookAlone stallWorkspace hlookWorlds
  rw [hb, hmax] at hkitResolve
  rw [hb', hmax] at hlookResolve
  exact ⟨hkit, rfl, rfl, rfl, hdelivers, ⟨b, hkitResolve, hresolved⟩, hexhausts, b', hlookResolve,
    hnames⟩

/-- A library that no attempt brings is not always dropped: in the end a wait cannot be told. -/
theorem not_dropped_gone :
    ¬∀ (settings : Settings) (w : Workspace) (d : Declaration) (s : State) (key : String),
      d.IsValid → d.kind = .bundled → cacheKey w none (d.url.getD "") = .ok key →
      cached? d key s.cache = .ok none →
      (∀ i < maxAttempts settings,
        ∃ fault, Rejected settings none d (ownWorlds settings none d w s) i fault) →
      ∃ b, (resolve w settings none false [d] s).1 = .ok b ∧ b.dropped = [d.name] := by
  intro h
  obtain ⟨b, hb, -⟩ := h patient shelf gone ⟨.empty, .empty true⟩ "/gone.js" isValid_gone rfl rfl
    rfl fun _ _ => ⟨goneFault, _, attempt_gone _, rfl⟩
  have hbroken := resolve_gone
  rw [hb] at hbroken
  cases hbroken

end Storybind.Bundle
