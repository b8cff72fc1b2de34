import Mathlib.Tactic
import Storybind.Proofs.Dependency.Interleaving
import Storybind.Proofs.Dependency.Transparency
import Storybind.Proofs.Except

/-!
Integrity over whole histories. Any number of calls share a cache that is empty at first; the
libraries of all of them move in any order, and with every move the files and the network may be
others. Content that arrives for a library with an integrity value is the text of bytes that have the
digest, also where it comes from a cache that took it in unchecked.
-/

namespace Storybind

open Fetch

/-- Content that may be given to a library: the text of bytes with the digest asked for, if one is. -/
def Fetch.Vouched (integrity : Option String) (content : String) : Prop :=
  ∀ value, integrity = some value → value ≠ "" →
    ∃ bytes, Digest.verify bytes value = .ok true ∧ Text.decodeLossy bytes = content

/-- The errand of a library, with content that may be given to it if it has arrived. -/
inductive Errand.Vouches (d : Declaration) : Errand → Prop
  | unstarted : Vouches d (.unstarted d)
  | idle : Vouches d (.standing .idle)
  | waiting (key : String) (attempts : Nat) (complaint : String) :
      Vouches d (.standing (.waiting d key attempts complaint))
  | asked (key : String) (number : Nat) (answer : Except Breakdown (Except Fault Bytes)) :
      Vouches d (.asked d key number answer)
  | arrived {content : String} (h : Vouched d.integrity content) :
      Vouches d (.standing (.arrived content))
  | broken (e : Breakdown) : Vouches d (.standing (.broken e))

/-- A library on its way, with the settings and the base of the call that sent for it. -/
structure Journey where
  settings : Settings
  base : Option Path
  library : Declaration
  errand : Errand

/-- The content with which a step ends an errand. -/
def Errand.delivered : Errand → Errand → List String
  | .standing _, _ => []
  | _, .standing (.arrived content) => [content]
  | _, _ => []

/-- Libraries on their way for any number of calls, the cache that they share, and what has arrived
so far for which library. -/
structure History where
  journeys : List Journey
  cache : Cache
  arrivals : List (Declaration × String)

/-- What can happen next: a call sends for libraries, one of those sent for moves, a call fetches its
libraries from beginning to end, or the cache is emptied, switched on or off. -/
inductive Event where
  | sends (settings : Settings) (base : Option Path) (libraries : List Declaration)
  | moves (place : Nat) (w : Workspace) (n : Web.Network)
  | fetches (w : Workspace) (n : Web.Network) (settings : Settings) (base : Option Path)
      (libraries : List Declaration)
  | empties
  | switches (enabled : Bool)

namespace History

def start (enabled : Bool) : History := ⟨[], .empty enabled, []⟩

/-- The content among what fetching gave for libraries. -/
def contents (xs : List (Declaration × Outcome)) : List (Declaration × String) :=
  xs.filterMap fun
    | (d, .content text) => some (d, text)
    | _ => none

/-- Moves the journey at a place. -/
def move (place : Nat) (w : Workspace) (n : Web.Network) (h : History) : History :=
  match h.journeys[place]? with
  | none => h
  | some j =>
    let (e, s) := j.errand.step w j.settings j.base ⟨n, h.cache⟩
    { journeys := h.journeys.set place { j with errand := e }
      cache := s.cache
      arrivals := h.arrivals ++ (j.errand.delivered e).map fun content => (j.library, content) }

/-- Fetches libraries from beginning to end. -/
def fetch (w : Workspace) (n : Web.Network) (settings : Settings) (base : Option Path)
    (ds : List Declaration) (h : History) : History :=
  match Download.fetchAll w settings base ds ⟨n, h.cache⟩ with
  | (.ok os, s) => { h with cache := s.cache, arrivals := h.arrivals ++ contents (ds.zip os) }
  | (.error _, s) => { h with cache := s.cache }

/-- The history after an event. -/
def next (h : History) : Event → History
  | .sends settings base ds =>
    { h with journeys := h.journeys ++ ds.map fun d => ⟨settings, base, d, .unstarted d⟩ }
  | .moves place w n => h.move place w n
  | .fetches w n settings base ds => h.fetch w n settings base ds
  | .empties => { h with cache := h.cache.clear }
  | .switches enabled => { h with cache := { h.cache with enabled := enabled } }

/-- The history after some events. -/
def run (enabled : Bool) (events : List Event) : History := events.foldl next (start enabled)

end History

section Steps

variable {w : Workspace} {settings : Settings} {base : Option Path} {d : Declaration}

theorem Fetch.verify_of_passes {integrity : Option String} {bytes : Bytes}
    (h : passes integrity bytes = .ok true) {value : String} (hvalue : integrity = some value)
    (hne : value ≠ "") : Digest.verify bytes value = .ok true := by
  subst hvalue
  have hasked : value.isEmpty = false := by simpa using hne
  simp only [passes, hasked, Bool.false_eq_true, if_false] at h
  cases hv : Digest.verify bytes value with
  | error e =>
    rw [hv] at h
    cases h
  | ok ok =>
    rw [hv] at h
    cases h
    rfl

/-- What comes out of a check may be given to the library that asked for it. -/
theorem Fetch.vouched_of_checked {integrity : Option String} {bytes : Bytes} {content : String}
    (h : checked integrity bytes = .ok (.ok content)) : Vouched integrity content := by
  intro value hvalue hne
  obtain ⟨ok, hpasses, hcontent⟩ := Except.map_eq_ok.mp h
  cases ok with
  | false => cases hcontent
  | true =>
    cases hcontent
    exact ⟨bytes, verify_of_passes hpasses hvalue hne, rfl⟩

/-- Cached content is checked as the bytes it is encoded to, and these have it as their text. -/
theorem Fetch.vouched_of_cached? {key content : String} {cache : Cache}
    (h : cached? d key cache = .ok (some content)) : Vouched d.integrity content := by
  intro value hvalue hne
  unfold cached? at h
  split at h
  · cases h
  · next held hheld =>
    obtain ⟨ok, hpasses, hcontent⟩ := Except.map_eq_ok.mp h
    cases ok with
    | false => cases hcontent
    | true =>
      cases hcontent
      exact ⟨Text.encode content, verify_of_passes hpasses hvalue hne,
        Text.decodeLossy_encode content⟩

theorem Fetch.vouched_of_takeIn {key content : String}
    {answer : Except Breakdown (Except Fault Bytes)} {s s' : State}
    (h : takeIn d key answer s = (.ok (.ok content), s')) : Vouched d.integrity content := by
  unfold takeIn at h
  split at h
  · cases h
  · cases h
  · split at h
    · next text hchecked =>
      cases h
      exact vouched_of_checked hchecked
    -- what is no content is handed on as it is
    · exact vouched_of_checked (congrArg Prod.fst h)

namespace Download

open Errand (Vouches)

theorem vouches_start (w : Workspace) (base : Option Path) (cache : Cache) (d : Declaration) :
    Vouches d (.standing (start w base cache d)) := by
  unfold start
  split
  · split
    · exact .broken _
    · split
      · exact .broken _
      · next content hcached => exact .arrived (vouched_of_cached? hcached)
      · exact .waiting _ _ _
  · exact .idle

/-- Whatever an attempt brings, its content is checked before it counts as arrived. -/
theorem vouches_goOn (settings : Settings) (d : Declaration) (key : String) (number : Nat)
    (answer : Except Breakdown (Except Fault Bytes)) (s : State) :
    Vouches d (.standing (goOn settings d key number answer s).1) := by
  rcases goOn_cases settings d key number answer s with
    ⟨e, hbroken⟩ | ⟨content, htaken, harrived⟩ | ⟨complaint, hwaiting⟩
  · rw [hbroken]
    exact .broken e
  · rw [harrived]
    exact .arrived (vouched_of_takeIn (Prod.ext htaken rfl))
  · rw [hwaiting]
    exact .waiting key number complaint

theorem vouches_advance {x : Download} (h : Vouches d (.standing x)) (s : State) :
    Vouches d (.standing (advance w settings base x s).1) := by
  cases h with
  | idle => exact .idle
  | arrived hcontent => exact .arrived hcontent
  | broken e => exact .broken e
  | waiting key attempts complaint =>
    simp only [advance]
    split
    · exact vouches_goOn settings d key (attempts + 1) _ _
    · exact .waiting key attempts complaint

theorem vouched_of_outcomes {ds : List Declaration} {xs : List Download} {os : List Outcome}
    (hx : List.Forall₂ (fun d x => Vouches d (.standing x)) ds xs)
    (ho : List.Forall₂ (fun x o => outcome settings x = .ok o) xs os) :
    List.Forall₂ (fun d o => ∀ content, o = .content content → Vouched d.integrity content)
      ds os := by
  induction hx generalizing os with
  | nil =>
    cases ho
    exact .nil
  | cons hhead _ ih =>
    cases ho with
    | cons houtcome hrest =>
      refine .cons ?_ (ih hrest)
      rintro content rfl
      cases hhead with
      | arrived hcontent =>
        cases houtcome
        exact hcontent
      | idle => cases houtcome
      | waiting key attempts complaint => cases houtcome
      | broken e => cases houtcome

/-- A whole fetch gives every library only content that may be given to it. -/
theorem vouched_fetchAll {ds : List Declaration} {s s' : State} {os : List Outcome}
    (h : fetchAll w settings base ds s = (.ok os, s')) :
    List.Forall₂ (fun d o => ∀ content, o = .content content → Vouched d.integrity content)
      ds os := by
  have hstart : List.Forall₂ (fun d x => Vouches d (.standing x)) ds
      (ds.map (start w base s.cache)) := by
    rw [List.forall₂_map_right_iff, List.forall₂_same]
    intro d _
    exact vouches_start w base s.cache d
  have hstep (d : Declaration) (x : Download) (s : State) (hx : Vouches d (.standing x))
      (_ : True) : Vouches d (.standing (advance w settings base x s).1) ∧ True :=
    ⟨vouches_advance hx s, trivial⟩
  obtain ⟨hend, -⟩ := rounds_forall₂ hstep (maxAttempts settings) hstart (s := s) trivial
  simp only [fetchAll, Prod.mk.injEq] at h
  exact vouched_of_outcomes hend (Except.mapM_eq_ok.mp h.1)

end Download

namespace Errand

theorem vouches_step {e : Errand} (h : Vouches d e) (s : State) :
    Vouches d (e.step w settings base s).1 := by
  cases h with
  | unstarted => exact Download.vouches_start w base s.cache d
  | idle => exact .idle
  | arrived hcontent => exact .arrived hcontent
  | broken e => exact .broken e
  | waiting key attempts complaint =>
    simp only [step]
    split
    · exact .asked key (attempts + 1) _
    · exact .waiting key attempts complaint
  | asked key number answer => exact Download.vouches_goOn settings d key number answer s

theorem vouched_of_delivered {e e' : Errand} {content : String} (h : Vouches d e')
    (hcontent : content ∈ e.delivered e') : Vouched d.integrity content := by
  unfold delivered at hcontent
  split at hcontent
  · cases hcontent
  · cases h with
    | arrived hvouched =>
      obtain rfl := List.mem_singleton.mp hcontent
      exact hvouched
  · cases hcontent

end Errand

end Steps

namespace History

/-- Only content that may be given to a library has arrived, or stands at the end of a journey. -/
structure Sound (h : History) : Prop where
  journeys : ∀ j ∈ h.journeys, j.errand.Vouches j.library
  arrivals : ∀ x ∈ h.arrivals, Vouched x.1.integrity x.2

theorem sound_start (enabled : Bool) : (start enabled).Sound where
  journeys := fun _ hj => absurd hj List.not_mem_nil
  arrivals := fun _ hx => absurd hx List.not_mem_nil

theorem vouched_contents {ds : List Declaration} {os : List Outcome}
    (h : List.Forall₂ (fun d o => ∀ content, o = .content content → Vouched d.integrity content)
      ds os) : ∀ x ∈ contents (ds.zip os), Vouched x.1.integrity x.2 := by
  rintro ⟨d, content⟩ hx
  obtain ⟨⟨d', o⟩, hzip, hx⟩ := List.mem_filterMap.mp hx
  cases o with
  | content text =>
    cases hx
    exact (List.forall₂_iff_zip.mp h).2 hzip _ rfl
  | unfetched => cases hx
  | givenUp complaint => cases hx

variable {h : History}

theorem sound_move (hh : h.Sound) (place : Nat) (w : Workspace) (n : Web.Network) :
    (h.move place w n).Sound := by
  unfold move
  split
  · exact hh
  · next j hj =>
    have hstep : (j.errand.step w j.settings j.base ⟨n, h.cache⟩).1.Vouches j.library :=
      Errand.vouches_step (hh.journeys j (List.mem_of_getElem? hj)) _
    refine ⟨fun j' hj' => ?_, fun x hx => ?_⟩
    · rcases List.mem_or_eq_of_mem_set hj' with hj' | rfl
      · exact hh.journeys j' hj'
      · exact hstep
    · rcases List.mem_append.mp hx with hx | hx
      · exact hh.arrivals x hx
      · obtain ⟨content, hcontent, rfl⟩ := List.mem_map.mp hx
        exact Errand.vouched_of_delivered hstep hcontent

theorem sound_fetch (hh : h.Sound) (w : Workspace) (n : Web.Network) (settings : Settings)
    (base : Option Path) (ds : List Declaration) : (h.fetch w n settings base ds).Sound := by
  unfold fetch
  split
  · next os s hfetch =>
    refine ⟨hh.journeys, fun x hx => ?_⟩
    rcases List.mem_append.mp hx with hx | hx
    · exact hh.arrivals x hx
    · exact vouched_contents (Download.vouched_fetchAll hfetch) x hx
  · exact ⟨hh.journeys, hh.arrivals⟩

/-- Nothing that can happen gives a library other content. What the cache holds plays no part. -/
theorem sound_next (hh : h.Sound) (e : Event) : (h.next e).Sound := by
  cases e with
  | sends settings base ds =>
    refine ⟨fun j hj => ?_, hh.arrivals⟩
    rcases List.mem_append.mp hj with hj | hj
    · exact hh.journeys j hj
    · obtain ⟨d, -, rfl⟩ := List.mem_map.mp hj
      exact .unstarted
  | moves place w n => exact sound_move hh place w n
  | fetches w n settings base ds => exact sound_fetch hh w n settings base ds
  | empties => exact ⟨hh.journeys, hh.arrivals⟩
  | switches enabled => exact ⟨hh.journeys, hh.arrivals⟩

theorem sound_run (enabled : Bool) (events : List Event) : (run enabled events).Sound := by
  have hfold (h : History) (hh : h.Sound) : (events.foldl next h).Sound := by
    induction events generalizing h with
    | nil => exact hh
    | cons e events ih => exact ih (h.next e) (sound_next hh e)
  exact hfold (start enabled) (sound_start enabled)

/-- Content that arrives for a library with an integrity value, after whatever happened to the cache
and on the network, is the text of bytes that have the digest. -/
theorem verified_of_arrival {enabled : Bool} {events : List Event} {d : Declaration}
    {content value : String} (h : (d, content) ∈ (run enabled events).arrivals)
    (hvalue : d.integrity = some value) (hne : value ≠ "") :
    ∃ bytes, Digest.verify bytes value = .ok true ∧ Text.decodeLossy bytes = content :=
  (sound_run enabled events).arrivals (d, content) h value hvalue hne

/-- A library with the digest of the character that stands in for bytes that are no text. -/
def standIn : Declaration :=
  Call.lone (some "sha256-g9VEzMIjwFfSv4DT8qMpgsMsPA244mdIINpQZHg/sJc=")

/-- A body that is no text comes for a library that is not checked; its text is then found in the cache
for one that asks for the digest of that text. -/
def handedOn : List Event :=
  [.sends (Call.single 20 standIn).settings none [Call.lone none, standIn],
    .moves 0 Call.blank Call.garbled, .moves 0 Call.blank Call.garbled,
    .moves 0 Call.blank Call.garbled, .moves 1 Call.blank ⟨[], [], []⟩]

theorem verified_of_arrival_handedOn :
    (standIn, "\ufffd") ∈ (run true handedOn).arrivals ∧ ∃ value, standIn.integrity = some value ∧
      value ≠ "" ∧ ∃ bytes, Digest.verify bytes value = .ok true ∧
        Text.decodeLossy bytes = "\ufffd" := by
  have harrival : (standIn, "\ufffd") ∈ (run true handedOn).arrivals := by decide +kernel
  exact ⟨harrival, _, rfl, by decide, verified_of_arrival harrival rfl (by decide)⟩

end History
end Storybind
