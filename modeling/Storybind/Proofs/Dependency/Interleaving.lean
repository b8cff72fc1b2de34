import Mathlib.Tactic
import Storybind.Dependency.Bundle
import Storybind.Proofs.Dependency.Attempts
import Storybind.Proofs.Dependency.Cache

/-!
Fetching in any order. An errand is a library on its way, its attempts cut in two: the request, and
what is done with the answer. A schedule names the errand that moves next, so anything may happen to
the others between a request and its answer, and between an answer and the next request. A bound on
how many requests are under way only leaves schedules out.
-/

namespace Storybind

open Fetch

/-- A library on its way: the cache was not asked, it stands between two steps or at its end, or an
answer is under way. -/
inductive Errand where
  | unstarted (declaration : Declaration)
  | standing (download : Download)
  | asked (declaration : Declaration) (key : String) (number : Nat)
      (answer : Except Breakdown (Except Fault Bytes))

namespace Errand

/-- Asks the cache, makes a request, or takes an answer in. -/
def step (w : Workspace) (settings : Settings) (base : Option Path) :
    Errand → State → Errand × State
  | .unstarted d, s => (.standing (Download.start w base s.cache d), s)
  | .standing (.waiting d key attempts complaint), s =>
    if attempts < maxAttempts settings then
      let (answer, n) := attempt w settings base (d.url.getD "") s.network
      (.asked d key (attempts + 1) answer, { s with network := n })
    else (.standing (.waiting d key attempts complaint), s)
  | .standing x, s => (.standing x, s)
  | .asked d key number answer, s =>
    let (x, s) := Download.goOn settings d key number answer s
    (.standing x, s)

/-- Whether nothing is left to do. -/
def isOver (settings : Settings) : Errand → Bool
  | .standing x => !x.isOpen settings
  | _ => false

/-- The warning about a library that was given up. -/
def warning? (settings : Settings) : Errand → Option String
  | .standing (.waiting d _ attempts complaint) =>
    if attempts < maxAttempts settings then none
    else some (Bundle.dropWarning d (Download.finalComplaint settings complaint))
  | _ => none

/-- The warning that a step adds: the one about a library given up on its last answer. -/
def report (settings : Settings) : Errand → Errand → List String
  | .asked _ _ _ _, e => (warning? settings e).toList
  | _, _ => []

/-- What an errand gives; one that is not over has fetched nothing yet. -/
def outcome (settings : Settings) : Errand → Except Breakdown Outcome
  | .standing x => x.outcome settings
  | _ => .ok .unfetched

end Errand

/-- Errands with the state that they share and the warnings so far. -/
structure Progress where
  errands : List Errand
  state : State
  warnings : List String

namespace Progress

/-- Takes one errand a step further. -/
def step (w : Workspace) (settings : Settings) (base : Option Path) (p : Progress) (i : Nat) :
    Progress :=
  match p.errands[i]? with
  | none => p
  | some e =>
    let (e', s) := e.step w settings base p.state
    ⟨p.errands.set i e', s, p.warnings ++ e.report settings e'⟩

/-- Takes errands further in the order of a schedule. -/
def run (w : Workspace) (settings : Settings) (base : Option Path) (p : Progress)
    (schedule : List Nat) : Progress :=
  schedule.foldl (step w settings base) p

/-- No library looked for yet. -/
def start (ds : List Declaration) (s : State) : Progress := ⟨ds.map .unstarted, s, []⟩

def isOver (settings : Settings) (p : Progress) : Bool := p.errands.all (Errand.isOver settings)

/-- The bundle of libraries in order, with the warnings as they came. -/
def bundle (settings : Settings) (minify : Bool) (ds : List Declaration) (p : Progress) :
    Except Breakdown Bundle :=
  (p.errands.mapM (Errand.outcome settings)).map fun os =>
    { Bundle.ofOutcomes minify p.state.cache (ds.zip os) with warnings := p.warnings }

end Progress

/-- Fetching along a schedule. -/
def Bundle.progressAlong (w : Workspace) (settings : Settings) (base : Option Path)
    (schedule : List Nat) (ds : List Declaration) (s : State) : Progress :=
  (Progress.start (Declaration.byPriority ds) s).run w settings base schedule

/-- Resolves declarations along a schedule. -/
def Bundle.resolveAlong (w : Workspace) (settings : Settings) (base : Option Path) (minify : Bool)
    (schedule : List Nat) (ds : List Declaration) (s : State) : Except Breakdown Bundle × State :=
  let p := progressAlong w settings base schedule ds s
  (p.bundle settings minify (Declaration.byPriority ds), p.state)

/-! ### One errand on its own -/

/-- The k-th attempt at a location brings the k-th of its answers, whatever else is asked for. -/
def Fetch.AnswersAs (w : Workspace) (settings : Settings) (base : Option Path)
    (locations : List String) (n : Web.Network) (answers : String → Nat → Except Fault Bytes) :
    Prop :=
  ∀ log m, Reached w settings base locations n log m → ∀ location ∈ locations,
    (attempt w settings base location m).1 = .ok (answers location (log.count location))

namespace Errand

section

variable (w : Workspace) (settings : Settings) (base : Option Path) (cache : Cache)
  (answers : String → Nat → Except Fault Bytes)

/-- A step of an errand that has the cache and the answers of its location for itself. -/
def next : Errand → Errand
  | .unstarted d => .standing (Download.start w base cache d)
  | .standing (.waiting d key attempts complaint) =>
    if attempts < maxAttempts settings then
      .asked d key (attempts + 1) (.ok (answers (d.url.getD "") attempts))
    else .standing (.waiting d key attempts complaint)
  | .standing x => .standing x
  | .asked d key number (.ok r) =>
    .standing (Download.settled settings d key number (judged d.integrity r))
  | .asked _ _ _ (.error e) => .standing (.broken e)

/-- An errand after a number of steps of its own. -/
def alone (d : Declaration) (steps : Nat) : Errand :=
  (next w settings base cache answers)^[steps] (.unstarted d)

/-- The errand of a library. -/
inductive Fits (d : Declaration) : Errand → Prop
  | unstarted : Fits d (.unstarted d)
  | idle (hk : d.kind ≠ .bundled) : Fits d (.standing .idle)
  | waiting {key complaint : String} {attempts : Nat} (hk : d.kind = .bundled)
      (hkey : cacheKey w base (d.url.getD "") = .ok key) :
      Fits d (.standing (.waiting d key attempts complaint))
  | arrived {content : String} (hk : d.kind = .bundled) : Fits d (.standing (.arrived content))
  | asked {key : String} {number : Nat} {r : Except Fault Bytes} (hk : d.kind = .bundled)
      (hkey : cacheKey w base (d.url.getD "") = .ok key) : Fits d (.asked d key number (.ok r))

end

variable {w : Workspace} {settings : Settings} {base : Option Path} {cache : Cache}
  {answers : String → Nat → Except Fault Bytes} {d : Declaration} {e : Errand}

variable (w settings base cache answers d) in
theorem alone_succ (steps : Nat) : alone w settings base cache answers d (steps + 1) =
    next w settings base cache answers (alone w settings base cache answers d steps) :=
  Function.iterate_succ_apply' _ _ _

theorem fits_start (hd : d.IsValid)
    (hkey : d.kind = .bundled → ∃ key, cacheKey w base (d.url.getD "") = .ok key) :
    Fits w base d (.standing (Download.start w base cache d)) := by
  by_cases hk : d.kind = .bundled
  · obtain ⟨key, hkey⟩ := hkey hk
    rcases Download.start_cases hd hk hkey with ⟨content, -, hstart⟩ | ⟨-, hstart⟩
    · rw [hstart]
      exact Fits.arrived hk
    · rw [hstart]
      exact Fits.waiting hk hkey
  · rw [Download.start_unbundled hk]
    exact Fits.idle hk

theorem fits_settled {key : String} (number : Nat) (hwaits : WaitsTold settings)
    (hk : d.kind = .bundled) (hkey : cacheKey w base (d.url.getD "") = .ok key)
    (v : Except Fault String) :
    Fits w base d (.standing (Download.settled settings d key number v)) := by
  cases v with
  | ok content => exact Fits.arrived hk
  | error fault =>
    rw [Download.settled, if_neg (hwaits.not_untold number)]
    exact Fits.waiting hk hkey

theorem fits_next (hd : d.IsValid) (hwaits : d.kind = .bundled → WaitsTold settings)
    (hkey : d.kind = .bundled → ∃ key, cacheKey w base (d.url.getD "") = .ok key)
    (h : Fits w base d e) : Fits w base d (next w settings base cache answers e) := by
  cases h with
  | unstarted => exact fits_start hd hkey
  | idle hk => exact Fits.idle hk
  | arrived hk => exact Fits.arrived hk
  | waiting hk hkey =>
    simp only [next]
    split
    · exact Fits.asked hk hkey
    · exact Fits.waiting hk hkey
  | @asked key number r hk hkey => exact fits_settled number (hwaits hk) hk hkey _

variable (cache answers) in
theorem fits_alone (hd : d.IsValid) (hwaits : d.kind = .bundled → WaitsTold settings)
    (hkey : d.kind = .bundled → ∃ key, cacheKey w base (d.url.getD "") = .ok key) (steps : Nat) :
    Fits w base d (alone w settings base cache answers d steps) := by
  induction steps with
  | zero => exact Fits.unstarted
  | succ steps ih =>
    rw [alone_succ]
    exact fits_next hd hwaits hkey ih

/-- An errand that is over stays as it is. -/
theorem next_of_isOver (h : e.isOver settings = true) :
    next w settings base cache answers e = e := by
  cases e with
  | unstarted d => cases h
  | asked d key number answer => cases h
  | standing x =>
    cases x with
    | waiting d key attempts complaint =>
      have hclosed : ¬attempts < maxAttempts settings := by
        simpa [isOver, Download.isOpen] using h
      simp only [next]
      rw [if_neg hclosed]
    | idle => rfl
    | arrived content => rfl
    | broken b => rfl

theorem alone_of_isOver {a b : Nat} (hab : a ≤ b)
    (h : (alone w settings base cache answers d a).isOver settings = true) :
    alone w settings base cache answers d b = alone w settings base cache answers d a := by
  induction b, hab using Nat.le_induction with
  | base => rfl
  | succ b _ ih => rw [alone_succ, ih, next_of_isOver h]

/-- All numbers of steps after which an errand is over leave it the same. -/
theorem alone_eq_of_isOver {a b : Nat}
    (ha : (alone w settings base cache answers d a).isOver settings = true)
    (hb : (alone w settings base cache answers d b).isOver settings = true) :
    alone w settings base cache answers d a = alone w settings base cache answers d b := by
  rcases Nat.le_total a b with hab | hab
  · exact (alone_of_isOver hab ha).symm
  · exact alone_of_isOver hab hb

/-- A bound on the steps that an errand has left. -/
def rest (settings : Settings) : Errand → Nat
  | .unstarted _ => 2 * maxAttempts settings + 1
  | .standing (.waiting _ _ attempts _) => 2 * (maxAttempts settings - attempts)
  | .asked _ _ number _ => 2 * (maxAttempts settings - number) + 1
  | _ => 0

theorem isOver_of_rest (h : e.rest settings = 0) : e.isOver settings = true := by
  cases e with
  | unstarted d => exact absurd h (Nat.succ_ne_zero _)
  | asked d key number answer => exact absurd h (Nat.succ_ne_zero _)
  | standing x =>
    cases x with
    | waiting d key attempts complaint =>
      simp only [rest] at h
      simp only [isOver, Download.isOpen, Bool.not_eq_true', decide_eq_false_iff_not]
      omega
    | idle => rfl
    | arrived content => rfl
    | broken b => rfl

theorem rest_settled (d : Declaration) (key : String) (number : Nat) (v : Except Fault String) :
    rest settings (.standing (Download.settled settings d key number v)) ≤
      2 * (maxAttempts settings - number) := by
  cases v with
  | ok content => exact Nat.zero_le _
  | error fault =>
    rw [Download.settled]
    split
    · exact Nat.zero_le _
    · exact Nat.le_refl _

theorem rest_start (cache : Cache) (d : Declaration) :
    rest settings (.standing (Download.start w base cache d)) ≤ 2 * maxAttempts settings := by
  unfold Download.start
  split
  · split
    · exact Nat.zero_le _
    · split
      · exact Nat.zero_le _
      · exact Nat.zero_le _
      · exact Nat.le_refl _
  · exact Nat.zero_le _

variable (w settings base cache answers) in
theorem rest_next (e : Errand) :
    rest settings (next w settings base cache answers e) ≤ rest settings e - 1 := by
  cases e with
  | unstarted d => exact rest_start cache d
  | asked d key number answer =>
    cases answer with
    | error b => exact Nat.zero_le _
    | ok r => exact rest_settled d key number _
  | standing x =>
    cases x with
    | waiting d key attempts complaint =>
      simp only [next]
      split
      · simp only [rest]
        omega
      · simp only [rest]
        omega
    | idle => exact Nat.le_refl _
    | arrived content => exact Nat.le_refl _
    | broken b => exact Nat.le_refl _

/-- Two steps for every attempt and one for the cache bring an errand to its end. -/
theorem isOver_alone {steps : Nat} (h : 2 * maxAttempts settings + 1 ≤ steps) :
    (alone w settings base cache answers d steps).isOver settings = true := by
  have hrest (k : Nat) : rest settings (alone w settings base cache answers d k) ≤
      2 * maxAttempts settings + 1 - k := by
    induction k with
    | zero => exact Nat.le_refl _
    | succ k ih =>
      rw [alone_succ]
      have hnext := rest_next w settings base cache answers
        (alone w settings base cache answers d k)
      omega
  have hzero := hrest steps
  exact isOver_of_rest (by omega)

/-! ### An errand among others -/

/-- The requests made for an errand that waits for its next one or for an answer. -/
def asks? : Errand → Option Nat
  | .unstarted _ => some 0
  | .standing (.waiting _ _ attempts _) => some attempts
  | .asked _ _ number _ => some number
  | _ => none

/-- What a cache holds under the key of an errand, once its content went into it. -/
def kept (cache : Cache) (key : String) : Errand → Option String
  | .standing (.arrived content) =>
    if cache.enabled then some content else cache.entries.lookup key
  | _ => cache.entries.lookup key

theorem asks?_start {k : Nat} (hd : d.IsValid) (hk : d.kind = .bundled)
    (hkey : ∃ key, cacheKey w base (d.url.getD "") = .ok key)
    (h : asks? (.standing (Download.start w base cache d)) = some k) : k = 0 := by
  obtain ⟨key, hkey⟩ := hkey
  rcases Download.start_cases hd hk hkey with ⟨content, -, hstart⟩ | ⟨-, hstart⟩
  · rw [hstart] at h
    cases h
  · rw [hstart] at h
    exact (Option.some.inj h).symm

theorem asks?_settled {key : String} {number k : Nat} {v : Except Fault String}
    (h : asks? (.standing (Download.settled settings d key number v)) = some k) : k = number := by
  cases v with
  | ok content => cases h
  | error fault =>
    rw [Download.settled] at h
    split at h
    · cases h
    · exact (Option.some.inj h).symm

/-- An answer that is refused leaves the cache as it is. -/
theorem kept_settled_error (cache : Cache) (d : Declaration) (key key' : String) (number : Nat) (fault : Fault) :
    kept cache key' (.standing (Download.settled settings d key number (.error fault))) =
      cache.entries.lookup key' := by
  rw [Download.settled]
  split
  · rfl
  · rfl

/-- What an errand sees of a state is as if no other had changed it. -/
structure Sees (w : Workspace) (base : Option Path) (cache : Cache) (d : Declaration) (e : Errand)
    (s : State) (log : List String) : Prop where
  enabled : s.cache.enabled = cache.enabled
  lookup : d.kind = .bundled → ∀ key, cacheKey w base (d.url.getD "") = .ok key →
    s.cache.entries.lookup key = kept cache key e
  asks : d.kind = .bundled → ∀ k, asks? e = some k → log.count (d.url.getD "") = k

theorem start_congr {cache' : Cache}
    (h : d.kind = .bundled → ∀ key, cacheKey w base (d.url.getD "") = .ok key →
      cache'.get? key = cache.get? key) :
    Download.start w base cache' d = Download.start w base cache d := by
  unfold Download.start
  split
  · next hk =>
    split
    · rfl
    · next key hkey =>
      have hcached : cached? d key cache' = cached? d key cache := by
        unfold cached?
        rw [h hk key hkey]
      rw [hcached]
  · rfl

variable {locations log : List String} {n : Web.Network} {s : State}

/-- An errand moves as it would alone. -/
theorem step_fst (hd : d.IsValid) (h : Fits w base d e) (hsees : Sees w base cache d e s log)
    (hanswers : AnswersAs w settings base locations n answers)
    (hl : d.kind = .bundled → d.url.getD "" ∈ locations)
    (hlog : Reached w settings base locations n log s.network) :
    (e.step w settings base s).1 = next w settings base cache answers e := by
  cases h with
  | unstarted =>
    refine congrArg standing (start_congr fun hk key hkey => ?_)
    unfold Cache.get?
    rw [hsees.enabled, hsees.lookup hk key hkey]
    rfl
  | idle hk => rfl
  | arrived hk => rfl
  -- the one step that asks the network
  | @waiting key complaint attempts hk hkey =>
    simp only [step, next]
    split
    · have hr := hanswers log s.network hlog _ (hl hk)
      rw [hsees.asks hk attempts rfl] at hr
      simp only
      rw [hr]
    · rfl
  | @asked key number r hk hkey =>
    simp only [step, next]
    rw [Download.goOn_fst hd]

variable (answers) in
/-- A step asks for the location of its own library at most. -/
theorem step_network (hd : d.IsValid)
    (hkey : d.kind = .bundled → ∃ key, cacheKey w base (d.url.getD "") = .ok key)
    (h : Fits w base d e) (hsees : Sees w base cache d e s log)
    (hl : d.kind = .bundled → d.url.getD "" ∈ locations)
    (hlog : Reached w settings base locations n log s.network) :
    ∃ log', Reached w settings base locations n log' (e.step w settings base s).2.network ∧
      (∀ location, location ≠ d.url.getD "" ∨ d.kind ≠ .bundled →
        log'.count location = log.count location) ∧
      (d.kind = .bundled → ∀ k, asks? (next w settings base cache answers e) = some k →
        log'.count (d.url.getD "") = k) := by
  cases h with
  | unstarted =>
    refine ⟨log, hlog, fun _ _ => rfl, fun hk k hasks => ?_⟩
    rw [hsees.asks hk 0 rfl, asks?_start hd hk (hkey hk) hasks]
  | idle hk => exact ⟨log, hlog, fun _ _ => rfl, fun hk' => absurd hk' hk⟩
  | arrived hk => exact ⟨log, hlog, fun _ _ => rfl, nofun⟩
  | @waiting key complaint attempts hk hkey =>
    have hcount := hsees.asks hk attempts rfl
    simp only [step, next]
    split
    · refine ⟨d.url.getD "" :: log, hlog.asked (hl hk), fun location hne => ?_, fun _ k hasks => ?_⟩
      · exact List.count_cons_of_ne (hne.resolve_right (not_not_intro hk)).symm
      · rw [List.count_cons_self, hcount]
        exact Option.some.inj hasks
    · exact ⟨log, hlog, fun _ _ => rfl, hsees.asks⟩
  | @asked key number r hk hkey =>
    refine ⟨log, Download.reached_goOn (.ok r) hlog, fun _ _ => rfl, fun _ k hasks => ?_⟩
    rw [hsees.asks hk number rfl, asks?_settled hasks]

/-- What the first step finds in the cache, the cache held. -/
theorem kept_start {key : String} (hd : d.IsValid) (hk : d.kind = .bundled)
    (hkey : cacheKey w base (d.url.getD "") = .ok key) :
    kept cache key (.standing (Download.start w base cache d)) = cache.entries.lookup key := by
  rcases Download.start_cases hd hk hkey with ⟨content, hhit, hstart⟩ | ⟨-, hstart⟩
  · rw [cached?_eq hd] at hhit
    have hget := (Option.filter_eq_some_iff.mp (Except.ok.inj hhit)).1
    rw [hstart]
    unfold Cache.get? at hget
    split at hget
    · next hon => rw [kept, if_pos hon, hget]
    · cases hget
  · rw [hstart]
    rfl

variable (settings answers) in
/-- A step changes the cache under the key of its own library at most. -/
theorem step_cache (hd : d.IsValid) (h : Fits w base d e) (hsees : Sees w base cache d e s log) :
    (e.step w settings base s).2.cache.enabled = s.cache.enabled ∧
      (∀ key, (d.kind = .bundled → cacheKey w base (d.url.getD "") ≠ .ok key) →
        (e.step w settings base s).2.cache.entries.lookup key = s.cache.entries.lookup key) ∧
      (d.kind = .bundled → ∀ key, cacheKey w base (d.url.getD "") = .ok key →
        (e.step w settings base s).2.cache.entries.lookup key =
          kept cache key (next w settings base cache answers e)) := by
  cases h with
  | unstarted =>
    refine ⟨rfl, fun _ _ => rfl, fun hk key hkey => ?_⟩
    simp only [next]
    rw [kept_start hd hk hkey]
    exact hsees.lookup hk key hkey
  | idle hk => exact ⟨rfl, fun _ _ => rfl, fun hk' => absurd hk' hk⟩
  | arrived hk => exact ⟨rfl, fun _ _ => rfl, hsees.lookup⟩
  | @waiting key complaint attempts hk hkey =>
    simp only [step, next]
    split
    · exact ⟨rfl, fun _ _ => rfl, hsees.lookup⟩
    · exact ⟨rfl, fun _ _ => rfl, hsees.lookup⟩
  | @asked key number r hk hkey =>
    -- an answer that is accepted goes into the cache under the key of the library
    have hcache : (Download.goOn settings d key number (.ok r) s).2.cache =
        cacheAfter key s.cache (judged d.integrity r) := Download.goOn_cache hd r s
    have hheld := hsees.lookup hk key hkey
    simp only [step, next]
    rw [hcache]
    cases judged d.integrity r with
    | error fault =>
      refine ⟨rfl, fun _ _ => rfl, fun hk' key' hkey' => (hsees.lookup hk' key' hkey').trans ?_⟩
      exact (kept_settled_error cache d key key' number fault).symm
    | ok content =>
      refine ⟨Cache.enabled_put key content s.cache, fun key' hne => ?_, fun _ key' hkey' => ?_⟩
      · have hdiff : key' ≠ key := fun heq => hne hk (heq ▸ hkey)
        exact (Cache.lookup_put key content key' s.cache).trans (if_neg fun hboth => hdiff hboth.2)
      · obtain rfl : key = key' := Except.ok.inj (hkey.symm.trans hkey')
        refine (Cache.lookup_put key content key s.cache).trans ?_
        simp only [Download.settled, kept]
        rw [hsees.enabled, hheld]
        simp [kept]

variable (settings cache answers) in
/-- A warning is added when an errand comes to have one. -/
theorem report_next (hd : d.IsValid)
    (hkey : d.kind = .bundled → ∃ key, cacheKey w base (d.url.getD "") = .ok key)
    (h : Fits w base d e) :
    next w settings base cache answers e = e ∧
        report settings e (next w settings base cache answers e) = [] ∨
      warning? settings e = none ∧ report settings e (next w settings base cache answers e) =
        (warning? settings (next w settings base cache answers e)).toList := by
  cases h with
  | unstarted =>
    refine Or.inr ⟨rfl, ?_⟩
    have hnone : warning? settings (.standing (Download.start w base cache d)) = none := by
      by_cases hk : d.kind = .bundled
      · obtain ⟨key, hkey⟩ := hkey hk
        rcases Download.start_cases hd hk hkey with ⟨content, -, hstart⟩ | ⟨-, hstart⟩
        · rw [hstart]
          rfl
        · rw [hstart, warning?, if_pos (maxAttempts_pos settings)]
      · rw [Download.start_unbundled hk]
        rfl
    simp only [next, report, hnone]
    rfl
  | idle hk => exact Or.inl ⟨rfl, rfl⟩
  | arrived hk => exact Or.inl ⟨rfl, rfl⟩
  | @waiting key complaint attempts hk hkey =>
    simp only [next, warning?]
    split
    · exact Or.inr ⟨rfl, rfl⟩
    · exact Or.inl ⟨rfl, rfl⟩
  | asked hk hkey => exact Or.inr ⟨rfl, rfl⟩

end Errand
end Storybind
