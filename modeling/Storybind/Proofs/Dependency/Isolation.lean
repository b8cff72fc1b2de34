import Mathlib.Tactic
import Storybind.Proofs.Dependency.AnyOrder
import Storybind.Proofs.Dependency.Assembly
import Storybind.Proofs.Dependency.Broken

/-!
Libraries fetched side by side do not see each other: where each location behaves by itself and no two
libraries share one, every library comes to what it comes to alone. One that is given up is dropped
with a warning, and without it the others are the same. One that breaks down leaves no bundle, for
itself or for the others.
-/

namespace Storybind

namespace Fetch

/-- The k-th attempt at a location comes to its k-th behaviour, content, a fault or a breakdown,
whatever else is asked for. -/
def BehavesAs (w : Workspace) (settings : Settings) (base : Option Path) (locations : List String)
    (n : Web.Network) (behaviour : String → Nat → Except Breakdown (Except Fault Bytes)) : Prop :=
  ∀ log m, Reached w settings base locations n log m → ∀ location ∈ locations,
    (attempt w settings base location m).1 = behaviour location (log.count location)

theorem BehavesAs.mono {w : Workspace} {settings : Settings} {base : Option Path}
    {behaviour : String → Nat → Except Breakdown (Except Fault Bytes)}
    {locations locations' : List String} {n : Web.Network}
    (h : BehavesAs w settings base locations n behaviour)
    (hl : ∀ location ∈ locations', location ∈ locations) :
    BehavesAs w settings base locations' n behaviour :=
  fun log m hreached location hmem => h log m (reached_mono hl hreached) location (hl location hmem)

/-- Nothing that a library meets ends everything: its content can be checked, the waits between its
attempts and its key can be told, and its location brings content or faults that count. -/
structure Handled (w : Workspace) (settings : Settings) (base : Option Path)
    (behaviour : String → Nat → Except Breakdown (Except Fault Bytes)) (d : Declaration) : Prop where
  valid : d.IsValid
  waits : d.kind = .bundled → WaitsTold settings
  key : d.kind = .bundled → ∃ key, cacheKey w base (d.url.getD "") = .ok key
  answers : d.kind = .bundled → ∀ k, ∃ r, behaviour (d.url.getD "") k = .ok r

end Fetch

namespace Download

open Fetch

/-- One more attempt of a download, with the behaviour of its own location. -/
def own (settings : Settings) (behaviour : String → Nat → Except Breakdown (Except Fault Bytes)) :
    Download → Download
  | .waiting d key attempts complaint =>
    if attempts < maxAttempts settings then
      landing settings d key (attempts + 1) (examined d (behaviour (d.url.getD "") attempts))
    else .waiting d key attempts complaint
  | x => x

/-- The location that a download waits for, with the attempts made at it. -/
def waitsFor : Download → Option (String × Nat)
  | .waiting d _ attempts _ => some (d.url.getD "", attempts)
  | _ => none

/-- A log holds the attempts of a download at its location. -/
def Tallied (locations log : List String) (x : Download) : Prop :=
  ∀ location attempts, x.waitsFor = some (location, attempts) →
    location ∈ locations ∧ log.count location = attempts

/-- Downloads that wait for no location in common. -/
def Strangers (x y : Download) : Prop :=
  ∀ location j k, x.waitsFor = some (location, j) → y.waitsFor ≠ some (location, k)

variable {w : Workspace} {settings : Settings} {base : Option Path} {locations : List String}
  {n : Web.Network} {behaviour : String → Nat → Except Breakdown (Except Fault Bytes)}

theorem waitsFor_landing {d : Declaration} {key location : String} {number k : Nat}
    {taken : Except Breakdown (Except Fault String)}
    (h : (landing settings d key number taken).waitsFor = some (location, k)) :
    d.url.getD "" = location ∧ number = k := by
  cases taken with
  | error e => cases h
  | ok v =>
    cases v with
    | ok content => cases h
    | error fault =>
      rw [landing, settled] at h
      split at h
      · cases h
      · cases h
        exact ⟨rfl, rfl⟩

/-- An attempt leaves a download to wait for the location that it waited for, if at all. -/
theorem waitsFor_own {x : Download} {location : String} {k : Nat}
    (h : (own settings behaviour x).waitsFor = some (location, k)) :
    ∃ j, x.waitsFor = some (location, j) := by
  cases x with
  | waiting d key attempts complaint =>
    simp only [own] at h
    split at h
    · obtain ⟨rfl, -⟩ := waitsFor_landing h
      exact ⟨attempts, rfl⟩
    · exact ⟨k, h⟩
  | idle => exact ⟨k, h⟩
  | arrived content => exact ⟨k, h⟩
  | broken e => exact ⟨k, h⟩

theorem Strangers.own {x y : Download} (h : Strangers x y) :
    Strangers (own settings behaviour x) (own settings behaviour y) := by
  intro location j k hx hy
  obtain ⟨j', hx'⟩ := waitsFor_own hx
  obtain ⟨k', hy'⟩ := waitsFor_own hy
  exact h location j' k' hx' hy'

theorem own_of_closed {x : Download} (h : x.isOpen settings = false) :
    own settings behaviour x = x := by
  cases x with
  | waiting d key attempts complaint =>
    have hclosed : ¬attempts < maxAttempts settings := by simpa [isOpen] using h
    rw [own, if_neg hclosed]
  | idle => rfl
  | arrived content => rfl
  | broken e => rfl

/-- An attempt does to a download what it would do alone, and asks for no location but its own. -/
theorem advance_own {x : Download} {s : State} {log : List String}
    (hbehaves : BehavesAs w settings base locations n behaviour)
    (hlog : Reached w settings base locations n log s.network) (hx : Tallied locations log x) :
    (advance w settings base x s).1 = own settings behaviour x ∧
      ∃ log', Reached w settings base locations n log' (advance w settings base x s).2.network ∧
        (∀ location, (∀ k, x.waitsFor ≠ some (location, k)) →
          log'.count location = log.count location) ∧
        Tallied locations log' (own settings behaviour x) := by
  cases x with
  | waiting d key attempts complaint =>
    obtain ⟨hl, hcount⟩ := hx _ _ rfl
    by_cases hopen : (waiting d key attempts complaint).isOpen settings = true
    -- the attempts so far are the requests for the location, so the answer is the next one alone
    · have hleft : attempts < maxAttempts settings := of_decide_eq_true hopen
      have hanswer := hbehaves log s.network hlog _ hl
      rw [hcount] at hanswer
      simp only [advance, own]
      rw [if_pos hopen, if_pos hleft]
      simp only [attempt]
      rw [hanswer]
      refine ⟨by rw [goOn_download, takeIn_fst], d.url.getD "" :: log,
        reached_goOn _ (hlog.asked hl), fun location hother => ?_, fun location k hwaits => ?_⟩
      · have hne : d.url.getD "" ≠ location := fun heq => hother attempts (by rw [← heq]; rfl)
        exact List.count_cons_of_ne hne
      · obtain ⟨rfl, rfl⟩ := waitsFor_landing hwaits
        exact ⟨hl, by rw [List.count_cons_self, hcount]⟩
    · have hclosed : own settings behaviour (waiting d key attempts complaint) =
          waiting d key attempts complaint := own_of_closed (Bool.eq_false_iff.mpr hopen)
      simp only [advance]
      rw [if_neg hopen, hclosed]
      exact ⟨rfl, log, hlog, fun _ _ => rfl, hx⟩
  | idle => exact ⟨rfl, log, hlog, fun _ _ => rfl, hx⟩
  | arrived content => exact ⟨rfl, log, hlog, fun _ _ => rfl, hx⟩
  | broken e => exact ⟨rfl, log, hlog, fun _ _ => rfl, hx⟩

/-- A round does to each of some strangers what an attempt alone does. -/
theorem round_own {xs : List Download} {s : State} {log : List String}
    (hbehaves : BehavesAs w settings base locations n behaviour)
    (hlog : Reached w settings base locations n log s.network) (hapart : xs.Pairwise Strangers)
    (hxs : ∀ x ∈ xs, Tallied locations log x) :
    (round w settings base xs s).1 = xs.map (own settings behaviour) ∧
      ∃ log', Reached w settings base locations n log' (round w settings base xs s).2.network ∧
        (∀ location, (∀ x ∈ xs, ∀ k, x.waitsFor ≠ some (location, k)) →
          log'.count location = log.count location) ∧
        ∀ x ∈ xs, Tallied locations log' (own settings behaviour x) := by
  induction xs generalizing s log with
  | nil => exact ⟨rfl, log, hlog, fun _ _ => rfl, fun x hx => absurd hx List.not_mem_nil⟩
  | cons x xs ih =>
    obtain ⟨hstrange, hapart⟩ := List.pairwise_cons.mp hapart
    obtain ⟨hx, hxs⟩ := List.forall_mem_cons.mp hxs
    obtain ⟨hhead, log₁, hlog₁, hkept₁, htallied₁⟩ := advance_own hbehaves hlog hx
    -- the head asked for no location of the others, so their attempts are still those in the log
    have hxs₁ : ∀ y ∈ xs, Tallied locations log₁ y := by
      intro y hy location k hwaits
      obtain ⟨hl, hcount⟩ := hxs y hy location k hwaits
      refine ⟨hl, (hkept₁ location fun j hj => ?_).trans hcount⟩
      exact hstrange y hy location j k hj hwaits
    obtain ⟨htail, log₂, hlog₂, hkept₂, htallied₂⟩ := ih hlog₁ hapart hxs₁
    refine ⟨?_, log₂, hlog₂, fun location hother => ?_, List.forall_mem_cons.mpr ⟨?_, htallied₂⟩⟩
    · simp only [round, List.map_cons]
      rw [hhead, htail]
    · obtain ⟨hother, hothers⟩ := List.forall_mem_cons.mp hother
      exact (hkept₂ location hothers).trans (hkept₁ location hother)
    -- and the others asked for no location of the head
    · intro location k hwaits
      obtain ⟨hl, hcount⟩ := htallied₁ location k hwaits
      obtain ⟨j, hj⟩ := waitsFor_own hwaits
      exact ⟨hl, (hkept₂ location fun y hy i => hstrange y hy location j i hj).trans hcount⟩

/-- After some rounds every one of some strangers stands where as many attempts alone take it. -/
theorem rounds_own (left : Nat) {xs : List Download} {s : State} {log : List String}
    (hbehaves : BehavesAs w settings base locations n behaviour)
    (hlog : Reached w settings base locations n log s.network) (hapart : xs.Pairwise Strangers)
    (hxs : ∀ x ∈ xs, Tallied locations log x) :
    ∃ j ≤ left, (rounds w settings base left xs s).1 = xs.map (own settings behaviour)^[j] := by
  induction left generalizing xs s log with
  | zero =>
    refine ⟨0, Nat.le_refl 0, ?_⟩
    unfold rounds
    split <;> exact (List.map_id xs).symm
  | succ left ih =>
    have hnone : xs = xs.map (own settings behaviour)^[0] := (List.map_id xs).symm
    unfold rounds
    split
    · exact ⟨0, Nat.zero_le _, hnone⟩
    · simp only
      split
      · obtain ⟨hround, log', hlog', -, htallied⟩ := round_own hbehaves hlog hapart hxs
        have hapart' : (xs.map (own settings behaviour)).Pairwise Strangers :=
          List.pairwise_map.mpr (hapart.imp Strangers.own)
        -- a round takes all of them one attempt on, and they are strangers still
        rw [hround]
        obtain ⟨j, hj, hrounds⟩ := ih hlog' hapart' (List.forall_mem_map.mpr htallied)
        refine ⟨j + 1, Nat.succ_le_succ hj, ?_⟩
        rw [hrounds, List.map_map]
        rfl
      · exact ⟨0, Nat.zero_le _, hnone⟩

/-! ### What a library comes to alone -/

section

variable (w : Workspace) (settings : Settings) (base : Option Path) (cache : Cache)
  (behaviour : String → Nat → Except Breakdown (Except Fault Bytes))

/-- A download after all the attempts that it may take. -/
def final (x : Download) : Download := (own settings behaviour)^[maxAttempts settings] x

/-- What fetching a library alone gives. -/
def alone (d : Declaration) : Except Breakdown Outcome :=
  outcome settings (final settings behaviour (start w base cache d))

/-- What fetching a library alone gives where it does not break down. -/
def given (d : Declaration) : Outcome :=
  match alone w settings base cache behaviour d with
  | .ok o => o
  | .error _ => .unfetched

end

variable {cache : Cache} {ds : List Declaration}

theorem final_of_closed {x : Download} {j : Nat} (hj : j ≤ maxAttempts settings)
    (h : ((own settings behaviour)^[j] x).isOpen settings = false) :
    final settings behaviour x = (own settings behaviour)^[j] x := by
  obtain ⟨k, hk⟩ := Nat.exists_eq_add_of_le' hj
  rw [final, hk, Function.iterate_add_apply]
  exact Function.iterate_fixed (own_of_closed h) k

theorem waitsFor_start {d : Declaration} {location : String} {k : Nat}
    (h : (start w base cache d).waitsFor = some (location, k)) :
    d.kind = .bundled ∧ d.url.getD "" = location ∧ k = 0 := by
  unfold start at h
  split at h
  · next hk =>
    split at h
    · cases h
    · split at h
      · cases h
      · cases h
      · cases h
        exact ⟨hk, rfl, rfl⟩
  · cases h

variable (w base cache) in
theorem strangers_start (hdistinct : (Declaration.locations ds).Nodup) :
    (ds.map (start w base cache)).Pairwise Strangers := by
  refine List.pairwise_map.mpr ?_
  have hbundled := List.pairwise_filter.mp (List.pairwise_map.mp hdistinct)
  refine hbundled.imp fun {d d'} hne location j k hd hd' => ?_
  obtain ⟨hk, hl, -⟩ := waitsFor_start hd
  obtain ⟨hk', hl', -⟩ := waitsFor_start hd'
  exact hne (decide_eq_true hk) (decide_eq_true hk') (hl.trans hl'.symm)

theorem tallied_start (w : Workspace) (base : Option Path) (cache : Cache) {d : Declaration}
    (hd : d ∈ ds) : Tallied (Declaration.locations ds) [] (start w base cache d) := by
  intro location k hwaits
  obtain ⟨hk, rfl, rfl⟩ := waitsFor_start hwaits
  exact ⟨Declaration.mem_locations hd hk, List.count_nil⟩

/-- Where a download broke down there are no outcomes. -/
theorem mapM_outcome_ne_ok {x : Download} {xs : List Download} (hx : x ∈ xs)
    (hbroken : x.isBroken = true) (os : List Outcome) : xs.mapM (outcome settings) ≠ .ok os := by
  intro h
  have hfails : Except.Fails (xs.mapM (outcome settings)) :=
    Except.fails_mapM.mpr ⟨x, hx, fails_outcome.mpr hbroken⟩
  rw [h] at hfails
  exact Except.not_fails_ok os hfails

/-- Libraries fetched side by side give outcomes exactly if each of them does alone, and then the
same. -/
theorem fetchAll_eq_ok {s : State} (os : List Outcome)
    (hbehaves : BehavesAs w settings base (Declaration.locations ds) s.network behaviour)
    (hdistinct : (Declaration.locations ds).Nodup) :
    (fetchAll w settings base ds s).1 = .ok os ↔
      ds.mapM (alone w settings base s.cache behaviour) = .ok os := by
  let alones := ds.map fun d => final settings behaviour (start w base s.cache d)
  have halone : ds.mapM (alone w settings base s.cache behaviour) =
      alones.mapM (outcome settings) := List.mapM_map.symm
  obtain ⟨j, hj, hrounds⟩ := rounds_own (maxAttempts settings) hbehaves Reached.start
    (strangers_start w base s.cache hdistinct)
    (List.forall_mem_map.mpr fun d hd => tallied_start w base s.cache hd)
  have hclosed := fetchAll_closed w settings base ds s
  rw [hrounds, List.map_map] at hclosed
  simp only [fetchAll]
  rw [halone, hrounds, List.map_map]
  rcases hclosed with hbroken | hclosed
  -- one that broke down did so for good, and alone it does the same
  · obtain ⟨x, hx, hbroken⟩ := List.any_eq_true.mp hbroken
    obtain ⟨d, hd, rfl⟩ := List.mem_map.mp hx
    have hmem : final settings behaviour (start w base s.cache d) ∈ alones := List.mem_map_of_mem hd
    rw [final_of_closed hj (isOpen_of_isBroken hbroken)] at hmem
    exact ⟨fun h => absurd h (mapM_outcome_ne_ok hx hbroken os),
      fun h => absurd h (mapM_outcome_ne_ok hmem hbroken os)⟩
  · have hfinal : alones = ds.map ((own settings behaviour)^[j] ∘ start w base s.cache) := by
      refine List.map_congr_left fun d hd => ?_
      exact final_of_closed hj (hclosed _ (List.mem_map_of_mem hd))
    rw [hfinal]

/-- What libraries give side by side is told from each of them. -/
theorem mapM_alone_eq_ok {os : List Outcome} :
    ds.mapM (alone w settings base cache behaviour) = .ok os ↔
      (∀ d ∈ ds, ∃ o, alone w settings base cache behaviour d = .ok o) ∧
        os = ds.map (given w settings base cache behaviour) := by
  rw [Except.mapM_eq_ok]
  induction ds generalizing os with
  | nil => simp
  | cons d ds ih =>
    rw [List.forall₂_cons_left_iff, List.forall_mem_cons, List.map_cons]
    constructor
    · rintro ⟨o, os, ho, hos, rfl⟩
      obtain ⟨hall, rfl⟩ := ih.mp hos
      refine ⟨⟨⟨o, ho⟩, hall⟩, ?_⟩
      rw [given, ho]
    · rintro ⟨⟨⟨o, ho⟩, hall⟩, rfl⟩
      refine ⟨o, _, ho, ih.mpr ⟨hall, rfl⟩, ?_⟩
      rw [given, ho]

theorem fits_own {d : Declaration} {x : Download} (hd : Handled w settings base behaviour d)
    (h : Errand.Fits w base d (.standing x)) :
    Errand.Fits w base d (.standing (own settings behaviour x)) := by
  cases h with
  | idle hk => exact .idle hk
  | arrived hk => exact .arrived hk
  | @waiting key complaint attempts hk hkey =>
    simp only [own]
    split
    · obtain ⟨r, hr⟩ := hd.answers hk attempts
      have hexamined : examined d (.ok r) = .ok (judged d.integrity r) := by
        cases r with
        | error fault => rfl
        | ok bytes => exact checked_eq hd.valid bytes
      rw [hr, hexamined]
      exact Errand.fits_settled (attempts + 1) (hd.waits hk) hk hkey _
    · exact .waiting hk hkey

/-- Alone, a library for which all is handled comes to an outcome. -/
theorem exists_alone {d : Declaration} (hd : Handled w settings base behaviour d) :
    ∃ o, alone w settings base cache behaviour d = .ok o := by
  have hfits (j : Nat) : Errand.Fits w base d
      (.standing ((own settings behaviour)^[j] (start w base cache d))) := by
    induction j with
    | zero => exact Errand.fits_start hd.valid hd.key
    | succ j ih =>
      rw [Function.iterate_succ_apply']
      exact fits_own hd ih
  have hend := hfits (maxAttempts settings)
  unfold alone final
  generalize (own settings behaviour)^[maxAttempts settings] (start w base cache d) = x at hend
  cases hend with
  | idle hk => exact ⟨_, rfl⟩
  | arrived hk => exact ⟨_, rfl⟩
  | waiting hk hkey => exact ⟨_, rfl⟩

end Download

theorem Declaration.byPriority_erase (d : Declaration) (ds : List Declaration) :
    byPriority (ds.erase d) = (byPriority ds).erase d := by
  have hsort := isStableSort_byPriority ds
  refine (isStableSort_byPriority (ds.erase d)).unique
    ⟨hsort.perm.erase d, hsort.ascending.sublist List.erase_sublist, fun p => ?_⟩
  rw [← List.erase_filter, ← List.erase_filter, hsort.stable p]

namespace Bundle

open Fetch Declaration

variable {minify : Bool}

/-- A bundle is another one with a library besides that was given up: this one is dropped with one
warning, the one that it gives alone, and all else is the same. -/
structure Spares (d : Declaration) (lone b b' : Bundle) : Prop where
  resolved : b.resolved = b'.resolved
  markup : b.markup = b'.markup
  script : b.script = b'.script
  style : b.style = b'.style
  inlineScript : b.inlineScript = b'.inlineScript
  dropped : ∃ pre post, b.dropped = pre ++ d.name :: post ∧ b'.dropped = pre ++ post
  warnings : ∃ warning pre post, lone.warnings = [warning] ∧
    b.warnings = pre ++ warning :: post ∧ b'.warnings = pre ++ post

/-- Of a library that was given up there is no entry. -/
theorem entries_givenUp (minify : Bool) (d : Declaration) (complaint : String)
    (pre post : List (Declaration × Outcome)) :
    entries minify (pre ++ (d, .givenUp complaint) :: post) = entries minify (pre ++ post) := by
  unfold entries
  rw [List.filterMap_append, List.filterMap_cons_none rfl, List.filterMap_append]

theorem spares_ofOutcomes {d : Declaration} {complaint : String} (cache cache' lone : Cache)
    (pre post : List (Declaration × Outcome)) :
    Spares d (ofOutcomes minify lone [(d, .givenUp complaint)])
      (ofOutcomes minify cache (pre ++ (d, .givenUp complaint) :: post))
      (ofOutcomes minify cache' (pre ++ post)) := by
  have hentries := entries_givenUp minify d complaint pre post
  -- every text is put together from the entries
  have hkind (kind : DependencyKind) (f : Declaration → String) :=
    congrArg (fun rs : List Resolved =>
      Text.join "\n" (((rs.map (·.declaration)).filter fun d => d.kind = kind).map f)) hentries
  have hformat (format : DependencyFormat) :=
    congrArg (fun rs => Text.join "\n" (sections format rs)) hentries
  let names (x : Declaration × Outcome) := (complaint? x.2).map fun _ => x.1.name
  let warnings (x : Declaration × Outcome) := (complaint? x.2).map (dropWarning x.1)
  refine ⟨hentries, hkind .remote Declaration.tag, hformat .script, hformat .stylesheet,
    hkind .inlined Declaration.inlineSection,
    ⟨pre.filterMap names, post.filterMap names, ?_, ?_⟩,
    dropWarning d complaint, pre.filterMap warnings, post.filterMap warnings, rfl, ?_, ?_⟩
  · change (pre ++ (d, .givenUp complaint) :: post).filterMap names = _
    rw [List.filterMap_append, List.filterMap_cons_some (by rfl)]
  · change (pre ++ post).filterMap names = _
    rw [List.filterMap_append]
  · change (pre ++ (d, .givenUp complaint) :: post).filterMap warnings = _
    rw [List.filterMap_append, List.filterMap_cons_some (by rfl)]
  · change (pre ++ post).filterMap warnings = _
    rw [List.filterMap_append]

variable {w : Workspace} {settings : Settings} {base : Option Path}
  {behaviour : String → Nat → Except Breakdown (Except Fault Bytes)} {ds : List Declaration}
  {s : State} {b : Bundle}

/-- A bundle comes exactly if every library gives an outcome alone, and is put together from these. -/
theorem resolve_eq_ok (minify : Bool)
    (hbehaves : BehavesAs w settings base (locations ds) s.network behaviour)
    (hdistinct : (locations ds).Nodup) :
    (resolve w settings base minify ds s).1 = .ok b ↔
      (∀ d ∈ ds, ∃ o, Download.alone w settings base s.cache behaviour d = .ok o) ∧
        ofOutcomes minify (resolve w settings base minify ds s).2.cache
          ((byPriority ds).map fun d =>
            (d, Download.given w settings base s.cache behaviour d)) = b := by
  have hperm := (isStableSort_byPriority ds).perm
  have hlocations : (locations (byPriority ds)).Perm (locations ds) := (hperm.filter _).map _
  have hfetch (os : List Outcome) := Download.fetchAll_eq_ok os
    (hbehaves.mono fun location hl => hlocations.mem_iff.mp hl) (hlocations.nodup_iff.mpr hdistinct)
  have hzip : (byPriority ds).zip ((byPriority ds).map
        (Download.given w settings base s.cache behaviour)) =
      (byPriority ds).map fun d => (d, Download.given w settings base s.cache behaviour d) := by
    rw [← List.map_id (byPriority ds), List.map_map, List.zip_map', List.map_map]
    rfl
  simp only [resolve, Except.map_eq_ok, hfetch, Download.mapM_alone_eq_ok]
  constructor
  · rintro ⟨os, ⟨hall, rfl⟩, hb⟩
    rw [hzip] at hb
    exact ⟨fun d hd => hall d (hperm.mem_iff.mpr hd), hb⟩
  · rintro ⟨hall, hb⟩
    rw [← hzip] at hb
    exact ⟨_, ⟨fun d hd => hall d (hperm.mem_iff.mp hd), rfl⟩, hb⟩

theorem locations_subset {ds' : List Declaration} (h : ds'.Sublist ds) :
    (locations ds').Sublist (locations ds) := (h.filter _).map _

/-- A library by itself gives a bundle exactly if it comes to an outcome alone. -/
theorem exists_resolve_singleton {d : Declaration} (hd : d ∈ ds)
    (hbehaves : BehavesAs w settings base (locations ds) s.network behaviour)
    (hdistinct : (locations ds).Nodup) :
    (∃ b, (resolve w settings base minify [d] s).1 = .ok b) ↔
      ∃ o, Download.alone w settings base s.cache behaviour d = .ok o := by
  have hsub := locations_subset (List.singleton_sublist.mpr hd)
  simp [resolve_eq_ok minify (hbehaves.mono fun location hl => hsub.subset hl) (hdistinct.sublist hsub)]

/-- A library that by itself gives a bundle with its name among the dropped was given up. -/
theorem given_eq_givenUp {d : Declaration} {lone : Bundle} (hd : d ∈ ds)
    (hbehaves : BehavesAs w settings base (locations ds) s.network behaviour)
    (hdistinct : (locations ds).Nodup)
    (hlone : (resolve w settings base minify [d] s).1 = .ok lone) (hdropped : lone.dropped = [d.name]) :
    ∃ complaint cache, Download.given w settings base s.cache behaviour d = .givenUp complaint ∧
      lone = ofOutcomes minify cache [(d, .givenUp complaint)] := by
  have hsub := locations_subset (List.singleton_sublist.mpr hd)
  have hone : byPriority [d] = [d] := List.mergeSort_singleton d
  obtain ⟨-, hb⟩ := (resolve_eq_ok minify (hbehaves.mono fun location hl => hsub.subset hl)
    (hdistinct.sublist hsub)).mp hlone
  rw [hone, List.map_singleton] at hb
  cases hgiven : Download.given w settings base s.cache behaviour d with
  | givenUp complaint =>
    rw [hgiven] at hb
    exact ⟨complaint, _, rfl, hb.symm⟩
  | unfetched =>
    rw [hgiven] at hb
    subst hb
    cases hdropped
  | content text =>
    rw [hgiven] at hb
    subst hb
    cases hdropped

/-- Without a library that was given up, the bundle of the others is the same. -/
theorem spares_of_dropped {d : Declaration} {lone : Bundle} (hd : d ∈ ds)
    (hbehaves : BehavesAs w settings base (locations ds) s.network behaviour)
    (hdistinct : (locations ds).Nodup) (hb : (resolve w settings base minify ds s).1 = .ok b)
    (hlone : (resolve w settings base minify [d] s).1 = .ok lone)
    (hdropped : lone.dropped = [d.name]) :
    ∃ b', (resolve w settings base minify (ds.erase d) s).1 = .ok b' ∧ Spares d lone b b' := by
  obtain ⟨complaint, cache, hgiven, rfl⟩ := given_eq_givenUp hd hbehaves hdistinct hlone hdropped
  obtain ⟨hall, rfl⟩ := (resolve_eq_ok minify hbehaves hdistinct).mp hb
  have hsub := locations_subset (List.erase_sublist (a := d) (l := ds))
  have hrest := (resolve_eq_ok minify (hbehaves.mono fun location hl => hsub.subset hl)
    (hdistinct.sublist hsub)).mpr ⟨fun d' hd' => hall d' (List.mem_of_mem_erase hd'), rfl⟩
  refine ⟨_, hrest, ?_⟩
  -- the library stands at one place of the order, and the order of the others is the same
  obtain ⟨pre, post, -, hordered, herased⟩ := List.exists_erase_eq
    ((isStableSort_byPriority ds).perm.mem_iff.mpr hd)
  rw [byPriority_erase, herased, hordered, List.map_append, List.map_cons, List.map_append, hgiven]
  exact spares_ofOutcomes _ _ _ _ _

/-- Where each location behaves by itself and no two libraries share one, libraries for which all is
handled give a bundle. They do exactly if each of them does by itself. And where they do, a library
that by itself is dropped is dropped with its one warning, and without it all else is the same. -/
theorem resolve_isolates (minify : Bool)
    (hbehaves : BehavesAs w settings base (locations ds) s.network behaviour)
    (hdistinct : (locations ds).Nodup) :
    ((∀ d ∈ ds, Handled w settings base behaviour d) →
        ∃ b, (resolve w settings base minify ds s).1 = .ok b) ∧
      ((∃ b, (resolve w settings base minify ds s).1 = .ok b) ↔
        ∀ d ∈ ds, ∃ b, (resolve w settings base minify [d] s).1 = .ok b) ∧
      ∀ d ∈ ds, ∀ b lone, (resolve w settings base minify ds s).1 = .ok b →
        (resolve w settings base minify [d] s).1 = .ok lone → lone.dropped = [d.name] →
        ∃ b', (resolve w settings base minify (ds.erase d) s).1 = .ok b' ∧ Spares d lone b b' := by
  have hcomes : (∃ b, (resolve w settings base minify ds s).1 = .ok b) ↔
      ∀ d ∈ ds, ∃ o, Download.alone w settings base s.cache behaviour d = .ok o := by
    simp [resolve_eq_ok minify hbehaves hdistinct]
  refine ⟨fun hhandled => ?_, hcomes.trans ?_, fun d hd b lone hb hlone hdropped => ?_⟩
  · exact hcomes.mpr fun d hd => Download.exists_alone (hhandled d hd)
  · exact forall₂_congr fun d hd => (exists_resolve_singleton hd hbehaves hdistinct).symm
  · exact spares_of_dropped hd hbehaves hdistinct hb hlone hdropped

/-- The library of the stall that never arrives. -/
def look : Declaration := stallLibrary "look" "https://b.example/look.css" .stylesheet 50

theorem byPriority_of_ascending (h : ds.Pairwise fun a b => a.priority ≤ b.priority) :
    byPriority ds = ds :=
  List.mergeSort_of_pairwise (h.imp decide_eq_true)

theorem dropped_look :
    (resolve stallWorkspace stallSettings none false [look] ⟨stall, .empty true⟩).1.map
      (·.dropped) = .ok ["look"] := by
  have hone : byPriority [look] = [look] := byPriority_of_ascending (List.pairwise_singleton _ _)
  simp only [resolve, hone]
  decide +kernel

theorem resolve_isolates_stall :
    ∃ behaviour b lone b',
      BehavesAs stallWorkspace stallSettings none (locations stallLibraries) stall behaviour ∧
      (locations stallLibraries).Nodup ∧
      (∀ d ∈ stallLibraries, Handled stallWorkspace stallSettings none behaviour d) ∧
      (resolve stallWorkspace stallSettings none false stallLibraries ⟨stall, .empty true⟩).1 = .ok b ∧
      (resolve stallWorkspace stallSettings none false [look] ⟨stall, .empty true⟩).1 = .ok lone ∧
      (resolve stallWorkspace stallSettings none false (stallLibraries.erase look)
        ⟨stall, .empty true⟩).1 = .ok b' ∧ Spares look lone b b' := by
  obtain ⟨answers, hapart⟩ := apart_stall
  have hbehaves : BehavesAs stallWorkspace stallSettings none (locations stallLibraries) stall
      fun location k => .ok (answers location k) := hapart.answers
  have hdistinct : (locations stallLibraries).Nodup := by decide
  have hhandled : ∀ d ∈ stallLibraries,
      Handled stallWorkspace stallSettings none (fun location k => .ok (answers location k)) d :=
    fun d hd => ⟨hapart.valid d hd, hapart.waits d hd, hapart.keys d hd, fun _ k => ⟨_, rfl⟩⟩
  obtain ⟨hcomes, heach, hspares⟩ := resolve_isolates (s := ⟨stall, .empty true⟩) false hbehaves
    hdistinct
  have hlook : look ∈ stallLibraries := by decide
  obtain ⟨b, hb⟩ := hcomes hhandled
  obtain ⟨lone, hlone⟩ := heach.mp ⟨b, hb⟩ look hlook
  have hdropped : lone.dropped = ["look"] := by
    have h := dropped_look
    rw [hlone] at h
    exact Except.ok.inj h
  obtain ⟨b', hb', hspared⟩ := hspares look hlook b lone hb hlone hdropped
  exact ⟨_, b, lone, b', hbehaves, hdistinct, hhandled, hb, hlone, hb', hspared⟩

/-- A library in the home of somebody unknown, beside one that can be fetched. -/
def ghost : Declaration := stallLibrary "ghost" "~ghost/lib.js" .script 60

def beside : Declaration := stallLibrary "local" "/lib.js" .script 50

theorem behavesAs_of_files {locations : List String} {n : Web.Network}
    (hweb : ∀ location ∈ locations, isWebAddress location = false) :
    BehavesAs w settings base locations n fun location _ => (attempt w settings base location n).1 := by
  intro log m _ location hl
  simp only [attempt_file (hweb location hl)]

/-- A library whose path cannot be told leaves no bundle, where without it the other would come. -/
theorem not_isolated_ghost :
    (∀ d ∈ [beside, ghost], d.IsValid) ∧ (locations [beside, ghost]).Nodup ∧
      (∃ behaviour, BehavesAs stallWorkspace stallSettings none (locations [beside, ghost]) stall
        behaviour) ∧
      (resolve stallWorkspace stallSettings none false [beside, ghost] ⟨stall, .empty true⟩).1.map
        (·.dropped) = .error .homeUnknown ∧
      (resolve stallWorkspace stallSettings none false ([beside, ghost].erase ghost)
        ⟨stall, .empty true⟩).1.map (fun b => b.resolved.map (·.content)) = .ok [some "v2"] := by
  refine ⟨?_, by decide, ⟨_, behavesAs_of_files (by decide)⟩, ?_, ?_⟩
  · intro d hd
    simp only [List.mem_cons, List.not_mem_nil, or_false] at hd
    rcases hd with rfl | rfl
    all_goals exact ⟨by decide, by decide, nofun⟩
  · have hsorted : byPriority [beside, ghost] = [beside, ghost] :=
      byPriority_of_ascending (by decide)
    simp only [resolve, hsorted]
    decide +kernel
  · have hrest : [beside, ghost].erase ghost = [beside] := by decide
    have hsorted : byPriority [beside] = [beside] :=
      byPriority_of_ascending (List.pairwise_singleton _ _)
    simp only [resolve, hrest, hsorted]
    decide +kernel

end Bundle
end Storybind
