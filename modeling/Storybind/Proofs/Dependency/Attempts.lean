import Mathlib.Tactic
import Storybind.Dependency.Download
import Storybind.Proofs.Dependency.Valid

/-!
One attempt, whatever else is asked for meanwhile. The networks that a run can lead to are told by
the locations that were asked for, and what an attempt does to a download is told by what its
content is judged to be.

What one attempt keeps of a download and of the state, all rounds keep; and after as many rounds as
there are attempts, either a download broke down or none has an attempt left.
-/

namespace Storybind

namespace Fetch

/-- The network after some locations of a list were asked for, with waits in between; the index
tells the locations asked for, the last one first. -/
inductive Reached (w : Workspace) (settings : Settings) (base : Option Path)
    (locations : List String) (n : Web.Network) : List String → Web.Network → Prop
  | start : Reached w settings base locations n [] n
  | asked {log : List String} {m : Web.Network} {location : String}
      (h : Reached w settings base locations n log m) (hl : location ∈ locations) :
      Reached w settings base locations n (location :: log)
        (attempt w settings base location m).2
  | waited {log : List String} {m : Web.Network} (h : Reached w settings base locations n log m)
      (seconds : Float) : Reached w settings base locations n log (m.wait seconds)

/-- What an attempt comes to once its content is checked against an integrity value. -/
def judged (integrity : Option String) : Except Fault Bytes → Except Fault String
  | .error fault => .error fault
  | .ok bytes =>
    if accepts integrity bytes then .ok (Text.decodeLossy bytes) else .error .integrity

/-- The cache after an attempt. -/
def cacheAfter (key : String) (cache : Cache) : Except Fault String → Cache
  | .ok content => cache.put key content
  | .error _ => cache

variable {d : Declaration}

theorem checked_eq (hd : d.IsValid) (bytes : Bytes) :
    checked d.integrity bytes = .ok (judged d.integrity (.ok bytes)) := by
  rw [checked, passes_eq hd]
  rfl

theorem takeIn_ok (hd : d.IsValid) (key : String) (r : Except Fault Bytes) (s : State) :
    takeIn d key (.ok r) s =
      (.ok (judged d.integrity r), { s with cache := cacheAfter key s.cache (judged d.integrity r) }) := by
  cases r with
  | error fault => rfl
  | ok bytes =>
    simp only [takeIn, checked_eq hd]
    cases judged d.integrity (.ok bytes) with
    | error fault => rfl
    | ok content => rfl

theorem takeIn_network (d : Declaration) (key : String)
    (answer : Except Breakdown (Except Fault Bytes)) (s : State) :
    (takeIn d key answer s).2.network = s.network := by
  unfold takeIn
  split
  · rfl
  · rfl
  · split <;> rfl

theorem reached_mono {w : Workspace} {settings : Settings} {base : Option Path}
    {locations locations' log : List String} {n m : Web.Network}
    (hl : ∀ location ∈ locations, location ∈ locations')
    (h : Reached w settings base locations n log m) :
    Reached w settings base locations' n log m := by
  induction h with
  | start => exact Reached.start
  | asked _ hmem ih => exact ih.asked (hl _ hmem)
  | waited _ seconds ih => exact ih.waited seconds

/-- An attempt at a file asks the network for nothing. -/
theorem attempt_file {w : Workspace} {settings : Settings} {base : Option Path} {location : String}
    (h : isWebAddress location = false) (n : Web.Network) :
    attempt w settings base location n =
      (if settings.fetchTimeout ≤ 0 then .ok (.error (.timeout settings.fetchTimeout))
        else ofFile w base location, n) := by
  unfold attempt
  split
  · rfl
  · rw [if_neg (by rw [h]; exact Bool.false_ne_true)]

/-- Cached content is taken if it has the digest asked for. -/
theorem cached?_eq (hd : d.IsValid) (key : String) (cache : Cache) :
    cached? d key cache =
      .ok ((cache.get? key).filter fun content => accepts d.integrity (Text.encode content)) := by
  unfold cached?
  cases cache.get? key with
  | none => rfl
  | some content =>
    simp only [passes_eq hd, Option.filter_some]
    rfl

theorem maxAttempts_pos (settings : Settings) : 0 < maxAttempts settings := by
  unfold maxAttempts
  omega

/-- Whether a wait is due after an attempt that cannot be told. -/
def Untold (settings : Settings) (number : Nat) : Prop :=
  number < maxAttempts settings ∧ 1024 < number

instance (settings : Settings) (number : Nat) : Decidable (Untold settings number) :=
  inferInstanceAs (Decidable (number < maxAttempts settings ∧ 1024 < number))

/-- Whether all waits between attempts can be told. -/
def WaitsTold (settings : Settings) : Prop := maxAttempts settings ≤ 1025

instance (settings : Settings) : Decidable (WaitsTold settings) :=
  inferInstanceAs (Decidable (maxAttempts settings ≤ 1025))

theorem WaitsTold.not_untold {settings : Settings} (h : WaitsTold settings) (number : Nat) :
    ¬Untold settings number := by
  unfold WaitsTold at h
  unfold Untold
  omega

/-- After an attempt there is a wait that cannot be told, no wait, or one. -/
theorem waitAfter_cases (settings : Settings) (number : Nat) (s : State) :
    Untold settings number ∧ s.waitAfter settings number = .error (.wait .tooLarge) ∨
      ¬Untold settings number ∧ (s.waitAfter settings number = .ok s ∨
        ∃ seconds, s.waitAfter settings number =
          .ok { s with network := s.network.wait seconds }) := by
  unfold State.waitAfter
  by_cases hleft : number < maxAttempts settings
  · rw [if_pos hleft]
    by_cases hmany : 1024 < number
    · have htell : backoff? number settings.backoffBase settings.backoffCap = .error .tooLarge :=
        if_pos (by exact_mod_cast hmany)
      rw [htell]
      exact Or.inl ⟨⟨hleft, hmany⟩, rfl⟩
    · have htell : ∃ seconds,
          backoff? number settings.backoffBase settings.backoffCap = .ok seconds := by
        rw [backoff?, if_neg (by exact_mod_cast hmany)]
        split
        · exact ⟨_, rfl⟩
        · exact ⟨_, rfl⟩
      obtain ⟨seconds, htell⟩ := htell
      rw [htell]
      exact Or.inr ⟨fun h => hmany h.2, Or.inr ⟨seconds, rfl⟩⟩
  · rw [if_neg hleft]
    exact Or.inr ⟨fun h => hleft h.1, Or.inl rfl⟩

end Fetch

/-- The libraries to be fetched are fetched from these locations. -/
def Declaration.locations (ds : List Declaration) : List String :=
  (ds.filter fun d => d.kind = .bundled).map fun d => d.url.getD ""

theorem Declaration.mem_locations {ds : List Declaration} {d : Declaration} (hd : d ∈ ds)
    (hk : d.kind = .bundled) : d.url.getD "" ∈ locations ds :=
  List.mem_map.mpr ⟨d, List.mem_filter.mpr ⟨hd, decide_eq_true hk⟩, rfl⟩

namespace Download

open Fetch

/-- Where a download stands after an attempt. -/
def settled (settings : Settings) (d : Declaration) (key : String) (number : Nat) :
    Except Fault String → Download
  | .ok content => .arrived content
  | .error fault =>
    if Untold settings number then .broken (.wait .tooLarge)
    else .waiting d key number fault.message

/-- The same, where the attempt may have broken down. -/
def landing (settings : Settings) (d : Declaration) (key : String) (number : Nat) :
    Except Breakdown (Except Fault String) → Download
  | .error e => .broken e
  | .ok v => settled settings d key number v

variable {settings : Settings} {d : Declaration} {key : String} {number : Nat}

/-- The first step finds the content of a bundled library in the cache, or leaves it to wait for its
first attempt. -/
theorem start_cases {w : Workspace} {base : Option Path} {cache : Cache} (hd : d.IsValid)
    (hk : d.kind = .bundled) (hkey : cacheKey w base (d.url.getD "") = .ok key) :
    (∃ content, cached? d key cache = .ok (some content) ∧
      start w base cache d = .arrived content) ∨
      cached? d key cache = .ok none ∧
        start w base cache d = .waiting d key 0 "no attempt made" := by
  unfold start
  rw [if_pos hk, hkey]
  simp only [cached?_eq hd]
  cases (cache.get? key).filter fun content => accepts d.integrity (Text.encode content) with
  | some content => exact Or.inl ⟨content, rfl, rfl⟩
  | none => exact Or.inr ⟨rfl, rfl⟩

theorem start_unbundled {w : Workspace} {base : Option Path} {cache : Cache}
    (hk : d.kind ≠ .bundled) : start w base cache d = .idle := by
  unfold start
  rw [if_neg hk]

/-- A download goes on from what was taken in. -/
theorem goOn_download (settings : Settings) (d : Declaration) (key : String) (number : Nat)
    (answer : Except Breakdown (Except Fault Bytes)) (s : State) :
    (goOn settings d key number answer s).1 =
      landing settings d key number (takeIn d key answer s).1 := by
  unfold goOn
  cases takeIn d key answer s with
  | mk taken s' =>
    cases taken with
    | error e => rfl
    | ok v =>
      cases v with
      | ok content => rfl
      | error fault =>
        simp only [landing, settled]
        rcases waitAfter_cases settings number s' with
          ⟨huntold, hwait⟩ | ⟨htold, hwait | ⟨seconds, hwait⟩⟩
        · rw [hwait, if_pos huntold]
        · rw [hwait, if_neg htold]
        · rw [hwait, if_neg htold]

/-- A download that goes on broke down, has its content, or waits for its next attempt. -/
theorem goOn_cases (settings : Settings) (d : Declaration) (key : String) (number : Nat)
    (answer : Except Breakdown (Except Fault Bytes)) (s : State) :
    (∃ e, (goOn settings d key number answer s).1 = .broken e) ∨
      (∃ content, (takeIn d key answer s).1 = .ok (.ok content) ∧
        (goOn settings d key number answer s).1 = .arrived content) ∨
      ∃ complaint, (goOn settings d key number answer s).1 = .waiting d key number complaint := by
  rw [goOn_download]
  cases (takeIn d key answer s).1 with
  | error e => exact Or.inl ⟨e, rfl⟩
  | ok v =>
    cases v with
    | ok content => exact Or.inr (Or.inl ⟨content, rfl, rfl⟩)
    | error fault =>
      simp only [landing, settled]
      split
      · exact Or.inl ⟨_, rfl⟩
      · exact Or.inr (Or.inr ⟨_, rfl⟩)

/-- Going on changes the state at most by a wait, once all was taken in. -/
theorem goOn_state (settings : Settings) (d : Declaration) (key : String) (number : Nat)
    (answer : Except Breakdown (Except Fault Bytes)) (s : State) :
    (goOn settings d key number answer s).2 = (takeIn d key answer s).2 ∨
      ∃ seconds, (goOn settings d key number answer s).2 =
        { (takeIn d key answer s).2 with
          network := (takeIn d key answer s).2.network.wait seconds } := by
  unfold goOn
  cases takeIn d key answer s with
  | mk taken s' =>
    cases taken with
    | error e => exact Or.inl rfl
    | ok v =>
      cases v with
      | ok content => exact Or.inl rfl
      | error fault =>
        rcases waitAfter_cases settings number s' with
          ⟨huntold, hwait⟩ | ⟨htold, hwait | ⟨seconds, hwait⟩⟩
        · simp only [hwait]
          exact Or.inl trivial
        · simp only [hwait]
          exact Or.inl trivial
        · simp only [hwait]
          exact Or.inr ⟨seconds, rfl⟩

theorem goOn_fst (hd : d.IsValid) (r : Except Fault Bytes) (s : State) :
    (goOn settings d key number (.ok r) s).1 =
      settled settings d key number (judged d.integrity r) := by
  -- the content of a valid declaration can be checked, so an attempt is judged
  rw [goOn_download, takeIn_ok hd]
  rfl

theorem goOn_cache_eq_takeIn (answer : Except Breakdown (Except Fault Bytes)) (s : State) :
    (goOn settings d key number answer s).2.cache = (takeIn d key answer s).2.cache := by
  rcases goOn_state settings d key number answer s with hstate | ⟨seconds, hstate⟩
  · rw [hstate]
  · rw [hstate]

theorem goOn_cache (hd : d.IsValid) (r : Except Fault Bytes) (s : State) :
    (goOn settings d key number (.ok r) s).2.cache =
      cacheAfter key s.cache (judged d.integrity r) := by
  rw [goOn_cache_eq_takeIn, takeIn_ok hd]

/-- Going on after an attempt asks for nothing. -/
theorem reached_goOn {w : Workspace} {base : Option Path} {locations log : List String}
    {n : Web.Network} {s : State} (answer : Except Breakdown (Except Fault Bytes))
    (h : Reached w settings base locations n log s.network) :
    Reached w settings base locations n log (goOn settings d key number answer s).2.network := by
  have hsame : Reached w settings base locations n log (takeIn d key answer s).2.network :=
    (takeIn_network d key answer s).symm ▸ h
  rcases goOn_state settings d key number answer s with hstate | ⟨seconds, hstate⟩
  · rwa [hstate]
  · rw [hstate]
    exact hsame.waited seconds

end Download
end Storybind

/-! ### Rounds -/

namespace Storybind.Download

open Fetch (State Breakdown maxAttempts)

variable {w : Workspace} {settings : Settings} {base : Option Path}

section Invariants

variable {I : State → Prop} {P Q : Declaration → Download → Prop}

/-- A round does to every download what one attempt does. -/
theorem round_forall₂
    (hstep : ∀ d x s, P d x → I s →
      Q d (advance w settings base x s).1 ∧ I (advance w settings base x s).2)
    {ds : List Declaration} {xs : List Download} {s : State} (h : List.Forall₂ P ds xs) (hs : I s) :
    List.Forall₂ Q ds (round w settings base xs s).1 ∧ I (round w settings base xs s).2 := by
  induction h generalizing s with
  | nil => exact ⟨List.Forall₂.nil, hs⟩
  | @cons d x ds xs hx _ ih =>
    -- the state goes from each download to the next one
    obtain ⟨hhead, hs'⟩ := hstep d x s hx hs
    obtain ⟨htail, hs''⟩ := ih hs'
    exact ⟨List.Forall₂.cons hhead htail, hs''⟩

/-- What every attempt keeps, all rounds keep. -/
theorem rounds_forall₂
    (hstep : ∀ d x s, P d x → I s →
      P d (advance w settings base x s).1 ∧ I (advance w settings base x s).2)
    {ds : List Declaration} (left : Nat) {xs : List Download} {s : State}
    (h : List.Forall₂ P ds xs) (hs : I s) :
    List.Forall₂ P ds (rounds w settings base left xs s).1 ∧
      I (rounds w settings base left xs s).2 := by
  induction left generalizing xs s with
  | zero =>
    unfold rounds
    split
    -- after a breakdown the others of the round still go on, and only the state is kept of that
    · exact ⟨h, (round_forall₂ hstep h hs).2⟩
    · exact ⟨h, hs⟩
  | succ left ih =>
    unfold rounds
    split
    · exact ⟨h, (round_forall₂ hstep h hs).2⟩
    · simp only
      split
      · obtain ⟨h', hs'⟩ := round_forall₂ hstep h hs
        exact ih h' hs'
      · exact ⟨h, hs⟩

end Invariants

/-- Whether so many further attempts are all that a download has left. -/
def Within (settings : Settings) (left : Nat) : Download → Prop
  | .waiting _ _ attempts _ => maxAttempts settings ≤ attempts + left
  | _ => True

theorem within_goOn (d : Declaration) (key : String) {number left : Nat}
    (answer : Except Breakdown (Except Fetch.Fault Bytes)) (s : State)
    (h : maxAttempts settings ≤ number + left) :
    Within settings left (goOn settings d key number answer s).1 := by
  rcases goOn_cases settings d key number answer s with
    ⟨e, hbroken⟩ | ⟨content, -, harrived⟩ | ⟨complaint, hwaiting⟩
  · rw [hbroken]
    trivial
  · rw [harrived]
    trivial
  · rw [hwaiting]
    exact h

/-- A round takes one of the attempts left. -/
theorem within_advance {left : Nat} {x : Download} (s : State) (h : Within settings (left + 1) x) :
    Within settings left (advance w settings base x s).1 := by
  cases x with
  | waiting d key attempts complaint =>
    simp only [advance]
    split
    · have hnext : maxAttempts settings ≤ (attempts + 1) + left := by
        simp only [Within] at h
        omega
      exact within_goOn d key _ _ hnext
    -- no attempt is left, so the number of those made is the greatest there is
    · next hclosed =>
      simp only [isOpen, decide_eq_true_eq] at hclosed
      simp only [Within]
      omega
  | idle => trivial
  | arrived content => trivial
  | broken e => trivial

theorem within_round {left : Nat} {xs : List Download} (s : State)
    (h : ∀ x ∈ xs, Within settings (left + 1) x) :
    ∀ x ∈ (round w settings base xs s).1, Within settings left x := by
  induction xs generalizing s with
  | nil => simp [round]
  | cons x xs ih =>
    intro y hy
    rcases List.mem_cons.mp hy with rfl | hy
    · exact within_advance s (h x List.mem_cons_self)
    · exact ih _ (fun z hz => h z (List.mem_cons_of_mem x hz)) y hy

theorem isOpen_of_within_zero {x : Download} (h : Within settings 0 x) :
    x.isOpen settings = false := by
  cases x with
  | waiting d key attempts complaint => simpa [isOpen, Within] using h
  | idle => rfl
  | arrived content => rfl
  | broken e => rfl

/-- When all attempts are made, a download broke down or none has an attempt left. -/
theorem rounds_closed (left : Nat) {xs : List Download} (s : State)
    (h : ∀ x ∈ xs, Within settings left x) :
    (rounds w settings base left xs s).1.any isBroken = true ∨
      ∀ x ∈ (rounds w settings base left xs s).1, x.isOpen settings = false := by
  induction left generalizing xs s with
  | zero =>
    unfold rounds
    split
    · next hbroken => exact Or.inl hbroken
    · exact Or.inr fun x hx => isOpen_of_within_zero (h x hx)
  | succ left ih =>
    unfold rounds
    split
    · next hbroken => exact Or.inl hbroken
    · simp only
      split
      · exact ih _ (within_round s h)
      · next hclosed =>
        refine Or.inr fun x hx => ?_
        simpa using fun hopen => hclosed (List.any_eq_true.mpr ⟨x, hx, hopen⟩)

theorem within_start (cache : Cache) (d : Declaration) :
    Within settings (maxAttempts settings) (start w base cache d) := by
  unfold start
  split
  · split
    · trivial
    · split
      · trivial
      · trivial
      · exact Nat.le_add_left _ _
  · trivial

variable (w settings base) in
/-- When libraries were fetched, one broke down or none has an attempt left. -/
theorem fetchAll_closed (ds : List Declaration) (s : State) :
    (rounds w settings base (maxAttempts settings) (ds.map (start w base s.cache)) s).1.any
        isBroken = true ∨
      ∀ x ∈ (rounds w settings base (maxAttempts settings) (ds.map (start w base s.cache)) s).1,
        x.isOpen settings = false := by
  refine rounds_closed _ s fun x hx => ?_
  obtain ⟨d, -, rfl⟩ := List.mem_map.mp hx
  exact within_start s.cache d

end Storybind.Download
