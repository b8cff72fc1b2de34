import Mathlib.Tactic
import Storybind.Proofs.Dependency.Confluence
import Storybind.Proofs.Dependency.Interleaving
import Storybind.Proofs.Dependency.Resolution
import Storybind.Proofs.Web.Network

/-!
Resolving along any schedule that brings all errands to an end gives what resolving in rounds gives,
for the rounds are a schedule themselves. The locations answer by the number of the attempt alone:
they are files, and addresses that lead to no other address, no two to the same.
-/

namespace Storybind.Fetch

open Web Network

/-- The address that is asked for at a location. -/
def addressOf (location : String) : Url :=
  match requestUrl location with
  | .ok u => u
  | .error _ => ⟨[], [], [], none, [], none, none⟩

/-- Whether a reply brings content or a fault that counts as an attempt. -/
def counts (u : Url) (reply : Reply) : Bool :=
  match settled u reply with
  | .ok _ => true
  | .error e => !endsAll e

/-- A location that brings content or a fault that counts in one request at most. -/
inductive Plain (w : Workspace) (base : Option Path) (n : Network) (location : String) : Prop
  | file (hweb : isWebAddress location = false) (r : Except Fault Bytes)
      (hr : ofFile w base location = .ok r) : Plain w base n location
  | address (hweb : isWebAddress location = true) (hdirect : Direct n location (addressOf location))
      (hcounts : ∀ reply ∈ n.repliesAt (addressOf location).toText,
        counts (addressOf location) reply = true) : Plain w base n location

variable {w : Workspace} {settings : Settings} {base : Option Path} {n : Network}
  {locations : List String}

theorem counts_replyAfter {location : String} {u : Url} (hdirect : Direct n location u)
    (h : ∀ reply ∈ n.repliesAt u.toText, counts u reply = true) (asked : Nat) :
    counts u (replyAfter asked (n.repliesAt u.toText)) = true := by
  rcases replyAfter_cases asked (n.repliesAt u.toText) with hmem | hnone
  · exact h _ hmem
  · rw [hnone, counts, settled, turn_missing hdirect.scheme]
    rfl

theorem ofRequest_of_counts {u : Url} {reply : Reply} (h : counts u reply = true) :
    ∃ r, ofRequest settings (settled u reply) = .ok r := by
  unfold counts at h
  cases hresult : settled u reply with
  | ok body => exact ⟨_, rfl⟩
  | error e =>
    rw [hresult] at h
    simp only [Bool.not_eq_true'] at h
    unfold ofRequest
    split
    · exact ⟨_, rfl⟩
    · exact ⟨_, rfl⟩
    · next e' _ heq =>
      obtain rfl : e = e' := Except.error.inj heq
      rw [h]
      exact ⟨_, rfl⟩

/-- Every request for a location counts for its own address, and for no other location. -/
theorem count_of_reached (hplain : ∀ location ∈ locations, Plain w base n location)
    (hown : ∀ a ∈ locations, ∀ b ∈ locations, isWebAddress a = true → isWebAddress b = true →
      (addressOf a).toText = (addressOf b).toText → a = b)
    (htime : ¬settings.fetchTimeout ≤ 0) {log : List String} {m : Network}
    (h : Reached w settings base locations n log m) :
    m.replies = n.replies ∧ ∀ location ∈ locations, isWebAddress location = true →
      m.count (addressOf location).toText = n.count (addressOf location).toText + log.count location := by
  induction h with
  | start => exact ⟨rfl, fun _ _ _ => rfl⟩
  | waited _ seconds ih => exact ih
  | @asked log m asked _ hmem ih =>
    obtain ⟨hreplies, hcount⟩ := ih
    cases hplain asked hmem with
    | file hweb r hr =>
      rw [attempt_file hweb]
      refine ⟨hreplies, fun location hl hlw => ?_⟩
      have hne : asked ≠ location := by
        rintro rfl
        rw [hweb] at hlw
        cases hlw
      rw [List.count_cons_of_ne hne]
      exact hcount location hl hlw
    | address hweb hdirect hcounts =>
      unfold attempt
      rw [if_neg htime, if_pos hweb, fetch_direct (hdirect.congr hreplies)]
      refine ⟨hreplies, fun location hl hlw => ?_⟩
      change (m.request (addressOf asked).toText).2.count (addressOf location).toText = _
      rw [count_request, hcount location hl hlw]
      -- no other location counts as this one, as no other is asked for at its address
      by_cases heq : location = asked
      · subst heq
        rw [if_pos rfl, List.count_cons_self, Nat.add_assoc]
      · have haddress : (addressOf location).toText ≠ (addressOf asked).toText :=
          fun h => heq (hown location hl asked hmem hlw hweb h)
        rw [if_neg haddress, List.count_cons_of_ne (Ne.symm heq)]
        rfl

/-- Files and addresses that lead to no other address, no two to the same, answer by the number of the
attempt. -/
theorem exists_answersAs (hplain : ∀ location ∈ locations, Plain w base n location)
    (hown : ∀ a ∈ locations, ∀ b ∈ locations, isWebAddress a = true → isWebAddress b = true →
      (addressOf a).toText = (addressOf b).toText → a = b) :
    ∃ answers, AnswersAs w settings base locations n answers := by
  by_cases htime : settings.fetchTimeout ≤ 0
  · refine ⟨fun _ _ => .error (.timeout settings.fetchTimeout), fun log m _ location _ => ?_⟩
    unfold attempt
    rw [if_pos htime]
  · have hanswer (location : String) (k : Nat) : ∃ r, location ∈ locations →
        ∀ log m, Reached w settings base locations n log m → log.count location = k →
          (attempt w settings base location m).1 = .ok r := by
      by_cases hl : location ∈ locations
      · cases hplain location hl with
        | file hweb r hr =>
          refine ⟨r, fun _ log m _ _ => ?_⟩
          rw [attempt_file hweb, if_neg htime]
          exact hr
        | address hweb hdirect hcounts =>
          obtain ⟨r, hr⟩ : ∃ r, ofRequest settings _ = .ok r := ofRequest_of_counts
            (counts_replyAfter hdirect hcounts (n.count (addressOf location).toText + k))
          refine ⟨r, fun _ log m hlog hk => ?_⟩
          obtain ⟨hreplies, hcount⟩ := count_of_reached hplain hown htime hlog
          unfold attempt
          rw [if_neg htime, if_pos hweb, fetch_direct (hdirect.congr hreplies), hcount location hl hweb,
            hk]
          unfold repliesAt at hr ⊢
          rw [hreplies]
          exact hr
      · exact ⟨.error .integrity, fun h => absurd h hl⟩
    -- the answer to the k-th attempt is the same after any log with k of them
    choose answers hanswers using hanswer
    exact ⟨answers, fun log m hlog location hl => hanswers location _ hl log m hlog rfl⟩

end Storybind.Fetch

/-! ### Any order -/

namespace Storybind

open Fetch

namespace Progress

variable {w : Workspace} {settings : Settings} {base : Option Path}

theorem run_append (p : Progress) (σ τ : List Nat) :
    p.run w settings base (σ ++ τ) = (p.run w settings base σ).run w settings base τ :=
  List.foldl_append

theorem step_at (pre post : List Errand) (e : Errand) (s : State) (ws : List String) :
    step w settings base ⟨pre ++ e :: post, s, ws⟩ pre.length =
      ⟨pre ++ (e.step w settings base s).1 :: post, (e.step w settings base s).2,
        ws ++ e.report settings (e.step w settings base s).1⟩ := by
  have hget : (pre ++ e :: post)[pre.length]? = some e := by simp
  have hset (e' : Errand) : (pre ++ e :: post).set pre.length e' = pre ++ e' :: post := by simp
  unfold step
  simp only [hget, hset]

/-- Two steps make one attempt. -/
theorem step_step (x : Download) (s : State) :
    Errand.step w settings base (Errand.step w settings base (.standing x) s).1
        (Errand.step w settings base (.standing x) s).2 =
      (.standing (Download.advance w settings base x s).1,
        (Download.advance w settings base x s).2) := by
  cases x with
  | idle => rfl
  | arrived content => rfl
  | broken e => rfl
  | waiting d key attempts complaint =>
    by_cases hopen : attempts < maxAttempts settings
    · simp only [Errand.step, Download.advance, Download.isOpen, hopen, if_true, decide_true]
      rfl
    · simp only [Errand.step, Download.advance, Download.isOpen, hopen, if_false, decide_false]
      rfl

/-- The steps of a round, errand after errand. -/
theorem exists_run_round (pre : List Errand) (xs : List Download) (s : State) (ws : List String) :
    ∃ schedule ws', run w settings base ⟨pre ++ xs.map .standing, s, ws⟩ schedule =
      ⟨pre ++ (Download.round w settings base xs s).1.map .standing,
        (Download.round w settings base xs s).2, ws'⟩ := by
  induction xs generalizing pre s ws with
  | nil => exact ⟨[], ws, rfl⟩
  | cons x xs ih =>
    -- two steps of one errand make its attempt, before the next one moves
    have hpair : ∃ ws', run w settings base ⟨pre ++ .standing x :: xs.map .standing, s, ws⟩
        [pre.length, pre.length] =
        ⟨pre ++ .standing (Download.advance w settings base x s).1 :: xs.map .standing,
          (Download.advance w settings base x s).2, ws'⟩ := by
      simp only [run, List.foldl_cons, List.foldl_nil]
      rw [step_at, step_at, step_step]
      exact ⟨_, rfl⟩
    obtain ⟨ws', hpair⟩ := hpair
    -- the errands that moved go before those that are left
    obtain ⟨schedule, ws'', hrest⟩ := ih
      (pre ++ [.standing (Download.advance w settings base x s).1])
      (Download.advance w settings base x s).2 ws'
    refine ⟨[pre.length, pre.length] ++ schedule, ws'', ?_⟩
    rw [run_append, List.map_cons, hpair]
    rw [List.append_assoc, List.append_assoc] at hrest
    exact hrest

/-- The first steps, errand after errand, ask the cache. -/
theorem exists_run_start (pre : List Errand) (ds : List Declaration) (s : State) :
    ∃ schedule, run w settings base ⟨pre ++ ds.map .unstarted, s, []⟩ schedule =
      ⟨pre ++ (ds.map (Download.start w base s.cache)).map .standing, s, []⟩ := by
  induction ds generalizing pre with
  | nil => exact ⟨[], rfl⟩
  | cons d ds ih =>
    obtain ⟨schedule, hrest⟩ := ih (pre ++ [.standing (Download.start w base s.cache d)])
    refine ⟨[pre.length] ++ schedule, ?_⟩
    rw [List.append_assoc, List.append_assoc] at hrest
    rw [run_append, List.map_cons]
    simp only [run, List.foldl_cons, List.foldl_nil] at hrest ⊢
    rw [step_at]
    exact hrest

variable {cache : Cache} {n : Web.Network} {answers : String → Nat → Except Fault Bytes}
  {ds : List Declaration}

theorem any_isBroken_of_sound {steps : Nat → Nat} {xs : List Download} {s : State}
    {ws : List String} (hapart : Apart w settings base n answers ds)
    (h : Sound w settings base cache n answers ds steps ⟨xs.map .standing, s, ws⟩) :
    xs.any Download.isBroken = false := by
  rw [List.any_eq_false]
  intro x hx
  obtain ⟨i, hlt, hi⟩ := List.getElem_of_mem (List.mem_map_of_mem (f := Errand.standing) hx)
  have hfits := fits_of_sound hapart h
  have hi' : i < ds.length := hfits.length_eq ▸ hlt
  have hfit := hfits.get hi' hlt
  simp only [List.get_eq_getElem] at hfit
  rw [hi] at hfit
  cases hfit <;> exact Bool.false_ne_true

/-- Rounds of attempts follow a schedule. -/
theorem exists_run_rounds (hapart : Apart w settings base n answers ds) (left : Nat)
    {steps : Nat → Nat} {xs : List Download} {s : State} {ws : List String}
    (h : Sound w settings base cache n answers ds steps ⟨xs.map .standing, s, ws⟩) :
    ∃ schedule ws', run w settings base ⟨xs.map .standing, s, ws⟩ schedule =
      ⟨(Download.rounds w settings base left xs s).1.map .standing,
        (Download.rounds w settings base left xs s).2, ws'⟩ := by
  induction left generalizing steps xs s ws with
  | zero =>
    unfold Download.rounds
    rw [if_neg (by rw [any_isBroken_of_sound hapart h]; exact Bool.false_ne_true)]
    exact ⟨[], ws, rfl⟩
  | succ left ih =>
    unfold Download.rounds
    rw [if_neg (by rw [any_isBroken_of_sound hapart h]; exact Bool.false_ne_true)]
    simp only
    split
    · obtain ⟨first, ws', hround⟩ := exists_run_round (w := w) [] xs s ws
      have hsound := sound_run hapart h first
      rw [List.nil_append, List.nil_append] at hround
      rw [hround] at hsound
      obtain ⟨later, ws'', hrounds⟩ := ih hsound
      refine ⟨first ++ later, ws'', ?_⟩
      rw [run_append, hround, hrounds]
    · exact ⟨[], ws, rfl⟩

theorem Apart.perm {ds' : List Declaration} (h : Apart w settings base n answers ds)
    (hperm : ds'.Perm ds) : Apart w settings base n answers ds' where
  valid := fun d hd => h.valid d (hperm.mem_iff.mp hd)
  waits := fun d hd => h.waits d (hperm.mem_iff.mp hd)
  keys := fun d hd => h.keys d (hperm.mem_iff.mp hd)
  distinct := (hperm.pairwise_iff fun hab hb ha heq => hab ha hb heq.symm).mpr h.distinct
  answers := by
    have hl (location : String) (hmem : location ∈ Declaration.locations ds') :
        location ∈ Declaration.locations ds :=
      ((hperm.filter _).map _).mem_iff.mp hmem
    exact fun log m hreached location hmem =>
      h.answers log m (reached_mono hl hreached) location (hl location hmem)

end Progress

namespace Bundle

open Declaration Progress

/-- Bundles that differ in the order of their warnings at most. -/
structure Alike (b b' : Bundle) : Prop where
  resolved : b.resolved = b'.resolved
  dropped : b.dropped = b'.dropped
  markup : b.markup = b'.markup
  script : b.script = b'.script
  style : b.style = b'.style
  inlineScript : b.inlineScript = b'.inlineScript
  stats : b.stats = b'.stats
  warnings : b.warnings.Perm b'.warnings

theorem alike_ofOutcomes {cache cache' : Cache} {warnings : List String}
    {xs : List (Declaration × Outcome)} (minify : Bool)
    (hcache : cache.entries.Perm cache'.entries)
    (hw : warnings.Perm (ofOutcomes minify cache' xs).warnings) :
    Alike { ofOutcomes minify cache xs with warnings := warnings }
      (ofOutcomes minify cache' xs) where
  resolved := rfl
  dropped := rfl
  markup := rfl
  script := rfl
  style := rfl
  inlineScript := rfl
  stats := by
    have hsize : cache.size = cache'.size := hcache.length_eq
    simp only [ofOutcomes, statsOf, hsize]
  warnings := hw

variable {w : Workspace} {settings : Settings} {base : Option Path}
  {answers : String → Nat → Except Fault Bytes} {ds : List Declaration} {s : State}

theorem sound_progressAlong (hapart : Apart w settings base s.network answers ds)
    (schedule : List Nat) :
    ∃ steps, Sound w settings base s.cache s.network answers (byPriority ds) steps
      (progressAlong w settings base schedule ds s) :=
  ⟨_, sound_run (hapart.perm (isStableSort_byPriority ds).perm)
    (sound_start (byPriority ds) s) schedule⟩

/-- A schedule that names every errand often enough brings all to their end. -/
theorem isOver_of_count (hapart : Apart w settings base s.network answers ds) {schedule : List Nat}
    (h : ∀ i < ds.length, 2 * maxAttempts settings + 1 ≤ schedule.count i) :
    (progressAlong w settings base schedule ds s).isOver settings = true := by
  have hsort := isStableSort_byPriority ds
  have hsound := sound_run (hapart.perm hsort.perm) (sound_start (byPriority ds) s) schedule
  refine List.all_eq_true.mpr fun e he => ?_
  obtain ⟨i, hi, rfl⟩ := List.getElem_of_mem he
  have hlt : i < ds.length := by
    rw [progressAlong, hsound.errands, List.length_mapIdx] at hi
    exact hsort.perm.length_eq ▸ hi
  have hsteps : 2 * maxAttempts settings + 1 ≤ 0 + schedule.count i := by
    have := h i hlt
    omega
  simp only [progressAlong, hsound.errands, List.getElem_mapIdx]
  exact Errand.isOver_alone hsteps

/-- Fetching in rounds follows a schedule. -/
theorem exists_schedule_rounds (hapart : Apart w settings base s.network answers ds) :
    ∃ schedule ws, progressAlong w settings base schedule ds s =
      ⟨(Download.rounds w settings base (maxAttempts settings)
          ((byPriority ds).map (Download.start w base s.cache)) s).1.map .standing,
        (Download.rounds w settings base (maxAttempts settings)
          ((byPriority ds).map (Download.start w base s.cache)) s).2, ws⟩ := by
  have hsorted := hapart.perm (isStableSort_byPriority ds).perm
  obtain ⟨first, hfirst⟩ := exists_run_start [] (byPriority ds) s
  have hfirst : run w settings base (start (byPriority ds) s) first =
      ⟨((byPriority ds).map (Download.start w base s.cache)).map .standing, s, []⟩ := hfirst
  have hstarted := sound_run hsorted (sound_start (byPriority ds) s) first
  rw [hfirst] at hstarted
  obtain ⟨later, ws, hrounds⟩ := exists_run_rounds hsorted (maxAttempts settings) hstarted
  refine ⟨first ++ later, ws, ?_⟩
  rw [progressAlong, run_append, hfirst, hrounds]

/-- Resolving takes the errands to their end along some schedule. -/
theorem exists_schedule_resolve (hapart : Apart w settings base s.network answers ds) (minify : Bool) :
    ∃ schedule os, (progressAlong w settings base schedule ds s).isOver settings = true ∧
      (progressAlong w settings base schedule ds s).errands.mapM (Errand.outcome settings) =
        .ok os ∧
      resolve w settings base minify ds s =
        (.ok (ofOutcomes minify (progressAlong w settings base schedule ds s).state.cache
          ((byPriority ds).zip os)), (progressAlong w settings base schedule ds s).state) := by
  have hsorted := hapart.perm (isStableSort_byPriority ds).perm
  obtain ⟨schedule, ws, hprogress⟩ := exists_schedule_rounds hapart
  obtain ⟨steps, hsound⟩ := sound_progressAlong hapart schedule
  have hclosed := Download.fetchAll_closed w settings base (byPriority ds) s
  have hresolve : resolve w settings base minify ds s =
      (((Download.rounds w settings base (maxAttempts settings)
          ((byPriority ds).map (Download.start w base s.cache)) s).1.mapM
            (Download.outcome settings)).map fun os =>
        ofOutcomes minify (Download.rounds w settings base (maxAttempts settings)
          ((byPriority ds).map (Download.start w base s.cache)) s).2.cache ((byPriority ds).zip os),
      (Download.rounds w settings base (maxAttempts settings)
          ((byPriority ds).map (Download.start w base s.cache)) s).2) := rfl
  refine ⟨schedule, ?_⟩
  rw [hresolve, hprogress]
  rw [hprogress] at hsound
  -- the progress at the end of the rounds, whatever they did
  generalize Download.rounds w settings base (maxAttempts settings)
    ((byPriority ds).map (Download.start w base s.cache)) s = r at *
  have hopen := hclosed.resolve_left
    (by rw [any_isBroken_of_sound hsorted hsound]; exact Bool.false_ne_true)
  have hover : ∀ e ∈ r.1.map Errand.standing, e.isOver settings = true := by
    intro e he
    obtain ⟨x, hx, rfl⟩ := List.mem_map.mp he
    rw [Errand.isOver, hopen x hx]
    rfl
  obtain ⟨os, hos, -⟩ := outcomes_of_fits (fits_of_sound hsorted hsound) hover
  refine ⟨os, List.all_eq_true.mpr hover, hos, ?_⟩
  rw [List.mapM_map] at hos
  have hmapM : r.1.mapM (Download.outcome settings) = .ok os := hos
  rw [hmapM]
  rfl

/-- A schedule that brings every errand to its end gives what resolving gives, and leaves the same
in the cache. -/
theorem alike_resolve (hapart : Apart w settings base s.network answers ds) (minify : Bool)
    {schedule : List Nat}
    (hover : (progressAlong w settings base schedule ds s).isOver settings = true) :
    ∃ b b₀, (resolveAlong w settings base minify schedule ds s).1 = .ok b ∧
      (resolve w settings base minify ds s).1 = .ok b₀ ∧ Alike b b₀ ∧
      (resolveAlong w settings base minify schedule ds s).2.cache.entries.Perm
        (resolve w settings base minify ds s).2.cache.entries := by
  have hsorted := hapart.perm (isStableSort_byPriority ds).perm
  obtain ⟨rounds, os, hover', hos, hresolve⟩ := exists_schedule_resolve hapart minify
  obtain ⟨steps, hsound⟩ := sound_progressAlong hapart schedule
  obtain ⟨steps', hsound'⟩ := sound_progressAlong hapart rounds
  -- both progresses are over, so their errands and caches are the same
  have hsame := errands_eq_of_isOver hsound hsound' hover hover'
  have hcache := cache_perm_of_isOver hsound hsound' hover hover'
  obtain ⟨os', hos', hwarnings⟩ :=
    outcomes_of_fits (fits_of_sound hsorted hsound) (List.all_eq_true.mp hover)
  rw [← hsame, hos'] at hos
  obtain rfl : os' = os := Except.ok.inj hos
  -- the warnings of the errands that are over, in whatever order they came
  have hwarned : (progressAlong w settings base schedule ds s).warnings.Perm
      (ofOutcomes minify (progressAlong w settings base rounds ds s).state.cache
        ((byPriority ds).zip os')).warnings := by
    refine hsound.warnings.trans ?_
    rw [← hwarnings]
    rfl
  rw [hresolve]
  refine ⟨_, _, ?_, rfl, alike_ofOutcomes minify hcache hwarned, hcache⟩
  simp only [resolveAlong, Progress.bundle]
  rw [hos']
  rfl

theorem Alike.trans_symm {b b' b₀ : Bundle} (h : Alike b b₀) (h' : Alike b' b₀) : Alike b b' where
  resolved := h.resolved.trans h'.resolved.symm
  dropped := h.dropped.trans h'.dropped.symm
  markup := h.markup.trans h'.markup.symm
  script := h.script.trans h'.script.symm
  style := h.style.trans h'.style.symm
  inlineScript := h.inlineScript.trans h'.inlineScript.symm
  stats := h.stats.trans h'.stats.symm
  warnings := h.warnings.trans h'.warnings.symm

/-- Along any two schedules that bring every errand to its end, libraries that can be fetched apart
give the same bundle up to the order of the warnings, the one that resolving gives, and leave the
same in the cache. -/
theorem resolveAlong_alike (hapart : Apart w settings base s.network answers ds) (minify : Bool)
    {σ τ : List Nat} (hσ : (progressAlong w settings base σ ds s).isOver settings = true)
    (hτ : (progressAlong w settings base τ ds s).isOver settings = true) :
    ∃ b b' b₀, (resolveAlong w settings base minify σ ds s).1 = .ok b ∧
      (resolveAlong w settings base minify τ ds s).1 = .ok b' ∧
      (resolve w settings base minify ds s).1 = .ok b₀ ∧ Alike b b' ∧ Alike b b₀ ∧
      (resolveAlong w settings base minify σ ds s).2.cache.entries.Perm
        (resolveAlong w settings base minify τ ds s).2.cache.entries ∧
      (resolveAlong w settings base minify σ ds s).2.cache.entries.Perm
        (resolve w settings base minify ds s).2.cache.entries := by
  obtain ⟨b, b₀, hb, hb₀, halike, hcache⟩ := alike_resolve hapart minify hσ
  obtain ⟨b', b₀', hb', hb₀', halike', hcache'⟩ := alike_resolve hapart minify hτ
  obtain rfl : b₀ = b₀' := Except.ok.inj (hb₀.symm.trans hb₀')
  exact ⟨b, b', b₀, hb, hb', hb₀, halike.trans_symm halike', halike, hcache.trans hcache'.symm,
    hcache⟩

/-- A script that arrives at the second attempt and a style sheet that never does. -/
def stall : Web.Network where
  replies := [("https://a.example/kit.js", [.timeout, .response 200 [] [118, 49]]),
    ("https://b.example/look.css", [.failure "ConnectError" "refused", .response 500 [] []])]
  requests := []
  waits := []

def stallLibrary (name url : String) (format : DependencyFormat) (priority : Int) : Declaration :=
  ⟨name, .bundled, some url, none, none, priority, false, false, false, false, none, none, format,
    none, none⟩

def stallLibraries : List Declaration :=
  [stallLibrary "kit" "https://a.example/kit.js" .script 60,
    stallLibrary "look" "https://b.example/look.css" .stylesheet 50,
    stallLibrary "local" "/lib.js" .script 50]

def stallWorkspace : Workspace :=
  ⟨⟨[(["lib.js"], .file [118, 50])]⟩, ⟨"/", []⟩, ⟨"/", []⟩, ⟨"/", []⟩⟩

def stallSettings : Settings :=
  ⟨20, 2, 1, 8, 4, true, "page", "https://cdn.example/", "", "default", "info", "/", false⟩

theorem plain_stall : ∀ location ∈ locations stallLibraries,
    Plain stallWorkspace none stall location := by
  intro location hl
  have hl : location = "https://a.example/kit.js" ∨ location = "https://b.example/look.css" ∨
      location = "/lib.js" := by
    simpa [locations, stallLibraries, stallLibrary] using hl
  rcases hl with rfl | rfl | rfl
  · have hreplies : stall.repliesAt (addressOf "https://a.example/kit.js").toText =
        [.timeout, .response 200 [] [118, 49]] := rfl
    refine Plain.address rfl ⟨rfl, rfl, rfl, ?_⟩ (by decide)
    rw [hreplies]
    intro reply hreply
    have hreply : reply = .timeout ∨ reply = .response 200 [] [118, 49] := by simpa using hreply
    rcases hreply with rfl | rfl
    · exact ⟨_, rfl⟩
    · exact ⟨_, rfl⟩
  · have hreplies : stall.repliesAt (addressOf "https://b.example/look.css").toText =
        [.failure "ConnectError" "refused", .response 500 [] []] := rfl
    refine Plain.address rfl ⟨rfl, rfl, rfl, ?_⟩ (by decide)
    rw [hreplies]
    intro reply hreply
    have hreply : reply = .failure "ConnectError" "refused" ∨ reply = .response 500 [] [] := by
      simpa using hreply
    rcases hreply with rfl | rfl
    · exact ⟨_, rfl⟩
    · exact ⟨_, rfl⟩
  · exact Plain.file rfl _ rfl

theorem apart_stall :
    ∃ answers, Apart stallWorkspace stallSettings none stall answers stallLibraries := by
  obtain ⟨answers, hanswers⟩ : ∃ answers, AnswersAs stallWorkspace stallSettings none
      (locations stallLibraries) stall answers := exists_answersAs plain_stall (by decide)
  have hwaits : WaitsTold stallSettings := by decide
  refine ⟨answers, fun d hd => ?_, fun _ _ _ => hwaits, fun d hd _ => ?_, by decide, hanswers⟩
  · simp only [stallLibraries, List.mem_cons, List.not_mem_nil, or_false] at hd
    rcases hd with rfl | rfl | rfl
    all_goals exact ⟨by decide, by decide, nofun⟩
  · simp only [stallLibraries, List.mem_cons, List.not_mem_nil, or_false] at hd
    rcases hd with rfl | rfl | rfl
    all_goals exact ⟨_, rfl⟩

/-- One library after another. -/
def stallFirst : List Nat := (List.range 3).flatMap (List.replicate 5)

/-- The libraries in turns, the last one first. -/
def stallTurns : List Nat := (List.replicate 5 [2, 1, 0]).flatten

theorem resolveAlong_alike_stall :
    ∃ b b' b₀,
      (resolveAlong stallWorkspace stallSettings none false stallFirst stallLibraries
        ⟨stall, .empty true⟩).1 = .ok b ∧
      (resolveAlong stallWorkspace stallSettings none false stallTurns stallLibraries
        ⟨stall, .empty true⟩).1 = .ok b' ∧
      (resolve stallWorkspace stallSettings none false stallLibraries ⟨stall, .empty true⟩).1 =
        .ok b₀ ∧ Alike b b' ∧ Alike b b₀ ∧
      (resolveAlong stallWorkspace stallSettings none false stallFirst stallLibraries
        ⟨stall, .empty true⟩).2.cache.entries.Perm
        (resolveAlong stallWorkspace stallSettings none false stallTurns stallLibraries
          ⟨stall, .empty true⟩).2.cache.entries ∧
      (resolveAlong stallWorkspace stallSettings none false stallFirst stallLibraries
        ⟨stall, .empty true⟩).2.cache.entries.Perm
        (resolve stallWorkspace stallSettings none false stallLibraries
          ⟨stall, .empty true⟩).2.cache.entries := by
  obtain ⟨answers, hapart⟩ := apart_stall
  exact resolveAlong_alike (s := ⟨stall, .empty true⟩) hapart false
    (isOver_of_count hapart (by decide)) (isOver_of_count hapart (by decide))

/-- The turns of a library alone follow a schedule. -/
theorem exists_schedule_turns {d : Declaration} {worlds : Nat → Workspace × State}
    (h : Download.Undisturbed settings base d worlds w) (k : Nat) :
    ∃ schedule ws, progressAlong w settings base schedule [d] (worlds 0).2 =
      ⟨[.standing (Download.stage settings base d worlds k)], (worlds k).2, ws⟩ := by
  have hone : byPriority [d] = [d] := List.mergeSort_singleton d
  simp only [progressAlong, hone]
  induction k with
  | zero =>
    obtain ⟨schedule, hstart⟩ := exists_run_start (w := w) [] [d] (worlds 0).2
    refine ⟨schedule, [], hstart.trans ?_⟩
    rw [Download.stage, h.files 0]
    rfl
  | succ k ih =>
    obtain ⟨first, ws, hfirst⟩ := ih
    obtain ⟨next, ws', hnext⟩ : ∃ next ws', run w settings base
        ⟨[.standing (Download.stage settings base d worlds k)], (worlds k).2, ws⟩ next =
          ⟨[.standing (Download.stage settings base d worlds (k + 1))],
            (worlds (k + 1)).2, ws'⟩ := by
      have hround := Download.round_singleton h k
      obtain ⟨next, ws', hnext⟩ := exists_run_round [] [Download.stage settings base d worlds k]
        (worlds k).2 ws
      rw [hround] at hnext
      exact ⟨next, ws', hnext⟩
    -- the schedule of one more turn goes behind that of the turns before
    refine ⟨first ++ next, ws', ?_⟩
    rw [run_append, hfirst]
    exact hnext

/-- What is apart does not always give a bundle: in the end a wait cannot be told. -/
theorem not_alike_gone :
    ¬∀ (settings : Settings) (w : Workspace) (ds : List Declaration) (s : State)
      (answers : String → Nat → Except Fault Bytes),
      (∀ d ∈ ds, d.IsValid) →
      (∀ d ∈ ds, d.kind = .bundled → ∃ key, cacheKey w none (d.url.getD "") = .ok key) →
      (ds.Pairwise fun a b => a.kind = .bundled → b.kind = .bundled →
        cacheKey w none (a.url.getD "") ≠ cacheKey w none (b.url.getD "")) →
      AnswersAs w settings none (locations ds) s.network answers → ∀ σ τ : List Nat,
        (progressAlong w settings none σ ds s).isOver settings = true →
        (progressAlong w settings none τ ds s).isOver settings = true →
        ∃ b b', (resolveAlong w settings none false σ ds s).1 = .ok b ∧
          (resolveAlong w settings none false τ ds s).1 = .ok b' ∧ Alike b b' := by
  intro h
  let s : State := ⟨.empty, .empty true⟩
  obtain ⟨σ, ws, hσ⟩ := exists_schedule_turns
    (Download.undisturbed_ownWorlds patient none gone shelf s) (maxAttempts patient)
  have hbroken : Download.stage patient none gone (Download.ownWorlds patient none gone shelf s)
      (maxAttempts patient) = .broken (.wait .tooLarge) :=
    stage_of_untold isValid_gone rfl rfl rfl (by decide) (fun n => ⟨_, _, attempt_gone n, rfl⟩)
      (by decide)
  rw [hbroken] at hσ
  have hσ : progressAlong shelf patient none σ [gone] s = _ := hσ
  have hanswers : AnswersAs shelf patient none (locations [gone]) s.network
      fun _ _ => .error goneFault :=
    fun _ m _ => List.forall_mem_singleton.mpr (attempt_gone m)
  have hover : (progressAlong shelf patient none σ [gone] s).isOver patient = true := by
    rw [hσ]
    rfl
  obtain ⟨b, b', hb, -⟩ := h patient shelf [gone] s _ (List.forall_mem_singleton.mpr isValid_gone)
    (List.forall_mem_singleton.mpr fun _ => ⟨_, rfl⟩) (List.pairwise_singleton _ _) hanswers σ σ
    hover hover
  rw [resolveAlong, hσ] at hb
  cases hb

end Bundle
end Storybind
