import Mathlib.Tactic
import Storybind.Proofs.Dependency.Interleaving
import Storybind.Proofs.Dependency.Order

/-!
The order in which attempts and answers come makes no difference to what is fetched: an errand whose
key is nobody else's stands, after any run, where so many steps of its own take it.
-/

namespace Storybind

open Fetch

theorem filterMap_set_perm {α β : Type} {f : α → Option β} {xs : List α} {i : Nat} {x y : α}
    (hx : xs[i]? = some x) (hnone : f x = none) :
    ((xs.set i y).filterMap f).Perm (xs.filterMap f ++ (f y).toList) := by
  induction xs generalizing i with
  | nil => cases hx
  | cons z xs ih =>
    cases i with
    | zero =>
      obtain rfl : z = x := Option.some.inj hx
      rw [List.set_cons_zero, List.filterMap_cons_none hnone, List.filterMap_cons]
      cases f y with
      | none => simp
      | some b =>
        have hswap : ([b] ++ xs.filterMap f).Perm (xs.filterMap f ++ [b]) := List.perm_append_comm
        exact hswap
    | succ i =>
      have htail := ih (i := i) hx
      rw [List.set_cons_succ, List.filterMap_cons, List.filterMap_cons]
      cases f z with
      | none => exact htail
      | some b => exact htail.cons b

namespace Progress

section

variable (w : Workspace) (settings : Settings) (base : Option Path) (cache : Cache)
  (n : Web.Network) (answers : String → Nat → Except Fault Bytes) (ds : List Declaration)

/-- Declarations that can be fetched apart from each other: they are valid, the waits between attempts
at bundled ones can be told, these have keys of their own, and their locations answer by the number of
the attempt alone. -/
structure Apart : Prop where
  valid : ∀ d ∈ ds, d.IsValid
  waits : ∀ d ∈ ds, d.kind = .bundled → WaitsTold settings
  keys : ∀ d ∈ ds, d.kind = .bundled → ∃ key, cacheKey w base (d.url.getD "") = .ok key
  distinct : ds.Pairwise fun a b => a.kind = .bundled → b.kind = .bundled →
    cacheKey w base (a.url.getD "") ≠ cacheKey w base (b.url.getD "")
  answers : AnswersAs w settings base (Declaration.locations ds) n answers

/-- A progress in which errand `i` made `steps i` steps, each as if it were alone. -/
structure Sound (steps : Nat → Nat) (p : Progress) : Prop where
  errands : p.errands =
    ds.mapIdx fun i d => Errand.alone w settings base cache answers d (steps i)
  shared : ∃ log, Reached w settings base (Declaration.locations ds) n log p.state.network ∧
    ∀ i d, ds[i]? = some d →
      Errand.Sees w base cache d (Errand.alone w settings base cache answers d (steps i)) p.state log
  enabled : p.state.cache.enabled = cache.enabled
  others : ∀ key, (∀ d ∈ ds, d.kind = .bundled → cacheKey w base (d.url.getD "") ≠ .ok key) →
    p.state.cache.entries.lookup key = cache.entries.lookup key
  warnings : p.warnings.Perm (p.errands.filterMap (Errand.warning? settings))

end

variable {w : Workspace} {settings : Settings} {base : Option Path} {cache : Cache}
  {n : Web.Network} {answers : String → Nat → Except Fault Bytes} {ds : List Declaration}

/-- Two bundled libraries with one key are at one place. -/
theorem Apart.eq_of_key (h : Apart w settings base n answers ds) {i j : Nat} {a b : Declaration}
    (ha : ds[i]? = some a) (hb : ds[j]? = some b) (hka : a.kind = .bundled)
    (hkb : b.kind = .bundled)
    (hkey : cacheKey w base (a.url.getD "") = cacheKey w base (b.url.getD "")) : i = j := by
  obtain ⟨hi, rfl⟩ := List.getElem?_eq_some_iff.mp ha
  obtain ⟨hj, rfl⟩ := List.getElem?_eq_some_iff.mp hb
  rcases Nat.lt_trichotomy i j with hij | hij | hij
  · exact absurd hkey (List.pairwise_iff_getElem.mp h.distinct i j hi hj hij hka hkb)
  · exact hij
  · exact absurd hkey.symm (List.pairwise_iff_getElem.mp h.distinct j i hj hi hij hkb hka)

theorem sound_start (ds : List Declaration) (s : State) :
    Sound w settings base s.cache s.network answers ds (fun _ => 0) (start ds s) where
  errands := by
    refine List.ext_getElem? fun i => ?_
    rw [List.getElem?_mapIdx, start, List.getElem?_map]
    rfl
  shared := by
    refine ⟨[], Reached.start, fun i d _ => ⟨rfl, fun _ _ _ => rfl, fun _ k hk => ?_⟩⟩
    exact Option.some.inj hk
  enabled := rfl
  others := fun _ _ => rfl
  warnings := by
    have hnone : (start ds s).errands.filterMap (Errand.warning? settings) = [] := by
      rw [List.filterMap_eq_nil_iff]
      intro e he
      obtain ⟨d, -, rfl⟩ := List.mem_map.mp he
      rfl
    rw [hnone]
    rfl

theorem Sound.errand_at {steps : Nat → Nat} {p : Progress}
    (h : Sound w settings base cache n answers ds steps p) (j : Nat) :
    p.errands[j]? = (ds[j]?).map fun d => Errand.alone w settings base cache answers d (steps j) := by
  rw [h.errands, List.getElem?_mapIdx]

/-- A step at a place where no errand is changes nothing. -/
theorem sound_step_nobody {steps : Nat → Nat} {p : Progress} {i : Nat} (hi : ds[i]? = none)
    (h : Sound w settings base cache n answers ds steps p) :
    Sound w settings base cache n answers ds (Function.update steps i (steps i + 1))
      (p.step w settings base i) := by
  have hstep : p.step w settings base i = p := by
    unfold step
    rw [h.errand_at, hi]
    rfl
  have hkept (j : Nat) (b : Declaration) (hb : ds[j]? = some b) :
      Function.update steps i (steps i + 1) j = steps j := by
    refine Function.update_of_ne (fun hji => ?_) _ _
    rw [hji, hi] at hb
    cases hb
  obtain ⟨log, hlog, hsees⟩ := h.shared
  rw [hstep]
  refine ⟨?_, ⟨log, hlog, fun j b hb => ?_⟩, h.enabled, h.others, h.warnings⟩
  · refine List.ext_getElem? fun j => ?_
    rw [h.errand_at, List.getElem?_mapIdx]
    cases hb : ds[j]? with
    | none => rfl
    | some b => rw [Option.map_some, Option.map_some, hkept j b hb]
  · rw [hkept j b hb]
    exact hsees j b hb

/-- What touches the location and the key of one library at most goes unseen by all others. -/
theorem Apart.sees_other (hapart : Apart w settings base n answers ds) {i j : Nat}
    {d b : Declaration} (hi : ds[i]? = some d) (hj : ds[j]? = some b) (hji : j ≠ i) {e : Errand}
    {s s' : State} {log log' : List String} (h : Errand.Sees w base cache b e s log)
    (henabled : s'.cache.enabled = s.cache.enabled)
    (hcache : ∀ key, (d.kind = .bundled → cacheKey w base (d.url.getD "") ≠ .ok key) →
      s'.cache.entries.lookup key = s.cache.entries.lookup key)
    (hcount : ∀ location, location ≠ d.url.getD "" ∨ d.kind ≠ .bundled →
      log'.count location = log.count location) :
    Errand.Sees w base cache b e s' log' := by
  have hne (hkb : b.kind = .bundled) (hkd : d.kind = .bundled) :
      cacheKey w base (b.url.getD "") ≠ cacheKey w base (d.url.getD "") :=
    fun heq => hji (hapart.eq_of_key hj hi hkb hkd heq)
  refine ⟨henabled.trans h.enabled, fun hkb key hkey => ?_, fun hkb k hk => ?_⟩
  · have hclear (hkd : d.kind = .bundled) : cacheKey w base (d.url.getD "") ≠ .ok key :=
      fun heq => hne hkb hkd (hkey.trans heq.symm)
    exact (hcache key hclear).trans (h.lookup hkb key hkey)
  · have hclear : b.url.getD "" ≠ d.url.getD "" ∨ d.kind ≠ .bundled := by
      by_cases hkd : d.kind = .bundled
      -- one location would be one key
      · exact Or.inl fun heq => hne hkb hkd (congrArg (cacheKey w base) heq)
      · exact Or.inr hkd
    exact (hcount _ hclear).trans (h.asks hkb k hk)

theorem warnings_step {ws : List String} {es : List Errand} {i : Nat} {e e' : Errand}
    (he : es[i]? = some e) (hws : ws.Perm (es.filterMap (Errand.warning? settings)))
    (hreport : e' = e ∧ e.report settings e' = [] ∨
      e.warning? settings = none ∧ e.report settings e' = (e'.warning? settings).toList) :
    (ws ++ e.report settings e').Perm ((es.set i e').filterMap (Errand.warning? settings)) := by
  rcases hreport with ⟨hsame, hnothing⟩ | ⟨hnone, hmore⟩
  · obtain ⟨hlt, heq⟩ := List.getElem?_eq_some_iff.mp he
    have hset : es.set i e = es := by
      rw [← heq, List.set_getElem_self]
    rw [hnothing, hsame, hset, List.append_nil]
    exact hws
  · rw [hmore]
    exact (hws.append_right _).trans (filterMap_set_perm he hnone).symm

/-- A step of one errand leaves every other where it is. -/
theorem sound_step {steps : Nat → Nat} {p : Progress} (hapart : Apart w settings base n answers ds)
    (h : Sound w settings base cache n answers ds steps p) (i : Nat) :
    Sound w settings base cache n answers ds (Function.update steps i (steps i + 1))
      (p.step w settings base i) := by
  cases hi : ds[i]? with
  | none => exact sound_step_nobody hi h
  | some d =>
    obtain ⟨log, hlog, hsees⟩ := h.shared
    have hmem : d ∈ ds := List.mem_of_getElem? hi
    have hd := hapart.valid d hmem
    have hkey := hapart.keys d hmem
    have hl (hk : d.kind = .bundled) := Declaration.mem_locations hmem hk
    have he : p.errands[i]? = some (Errand.alone w settings base cache answers d (steps i)) := by
      rw [h.errand_at, hi]
      rfl
    have hsucc := Errand.alone_succ w settings base cache answers d (steps i)
    have hfits := Errand.fits_alone cache answers hd (hapart.waits d hmem) hkey (steps i)
    have hse := hsees i d hi
    generalize Errand.alone w settings base cache answers d (steps i) = e at he hsucc hfits hse
    -- what the step does to the errand, to the network, to the cache and to the warnings
    have hfst := Errand.step_fst hd hfits hse hapart.answers hl hlog
    obtain ⟨log', hlog', hcount, hasks⟩ :=
      Errand.step_network answers hd hkey hfits hse hl hlog
    obtain ⟨henabled, hother, hown⟩ := Errand.step_cache settings answers hd hfits hse
    have hreport := Errand.report_next settings cache answers hd hkey hfits
    have hstep : p.step w settings base i =
        ⟨p.errands.set i (Errand.next w settings base cache answers e),
          (e.step w settings base p.state).2,
          p.warnings ++ e.report settings (Errand.next w settings base cache answers e)⟩ := by
      unfold step
      rw [he]
      simp only
      rw [hfst]
    rw [hstep]
    refine ⟨?_, ⟨log', hlog', fun j b hb => ?_⟩, henabled.trans h.enabled, fun key hno => ?_,
      warnings_step he h.warnings hreport⟩
    · refine List.ext_getElem? fun j => ?_
      have hlt := (List.getElem?_eq_some_iff.mp he).1
      rw [List.getElem?_set, List.getElem?_mapIdx]
      by_cases hij : i = j
      · subst hij
        rw [if_pos rfl, if_pos hlt, hi, Option.map_some, Function.update_self, hsucc]
      · rw [if_neg hij, h.errand_at]
        simp only [Function.update_of_ne (Ne.symm hij)]
    · by_cases hji : j = i
      · subst hji
        obtain rfl : d = b := Option.some.inj (hi.symm.trans hb)
        rw [Function.update_self, hsucc]
        exact ⟨henabled.trans h.enabled, hown, hasks⟩
      · rw [Function.update_of_ne hji]
        exact hapart.sees_other hi hb hji (hsees j b hb) henabled hother hcount
    · exact (hother key (hno d hmem)).trans (h.others key hno)

theorem sound_run {steps : Nat → Nat} {p : Progress} (hapart : Apart w settings base n answers ds)
    (h : Sound w settings base cache n answers ds steps p) (schedule : List Nat) :
    Sound w settings base cache n answers ds (fun i => steps i + schedule.count i)
      (p.run w settings base schedule) := by
  induction schedule generalizing steps p with
  | nil => exact h
  | cons i rest ih =>
    have hcount : (fun j => steps j + (i :: rest).count j) =
        fun j => Function.update steps i (steps i + 1) j + rest.count j := by
      funext j
      by_cases hji : j = i
      · subst hji
        rw [Function.update_self, List.count_cons_self]
        omega
      · rw [Function.update_of_ne hji, List.count_cons_of_ne (Ne.symm hji)]
    rw [hcount]
    exact ih (sound_step hapart h i)

theorem isOver_alone_of_sound {steps : Nat → Nat} {p : Progress}
    (h : Sound w settings base cache n answers ds steps p) (hover : p.isOver settings = true)
    {i : Nat} {d : Declaration} (hi : ds[i]? = some d) :
    (Errand.alone w settings base cache answers d (steps i)).isOver settings = true := by
  have he : p.errands[i]? = some (Errand.alone w settings base cache answers d (steps i)) := by
    rw [h.errand_at, hi]
    rfl
  exact List.all_eq_true.mp hover _ (List.mem_of_getElem? he)

/-- Errands that are over are the same, however the steps were made. -/
theorem errands_eq_of_isOver {steps steps' : Nat → Nat} {p p' : Progress}
    (h : Sound w settings base cache n answers ds steps p)
    (h' : Sound w settings base cache n answers ds steps' p')
    (hover : p.isOver settings = true) (hover' : p'.isOver settings = true) :
    p.errands = p'.errands := by
  rw [h.errands, h'.errands]
  refine List.ext_getElem? fun i => ?_
  rw [List.getElem?_mapIdx, List.getElem?_mapIdx]
  cases hi : ds[i]? with
  | none => rfl
  | some d =>
    rw [Option.map_some, Option.map_some,
      Errand.alone_eq_of_isOver (isOver_alone_of_sound h hover hi)
        (isOver_alone_of_sound h' hover' hi)]

/-- The caches of errands that are over hold the same entries. -/
theorem cache_perm_of_isOver {steps steps' : Nat → Nat} {p p' : Progress}
    (h : Sound w settings base cache n answers ds steps p)
    (h' : Sound w settings base cache n answers ds steps' p')
    (hover : p.isOver settings = true) (hover' : p'.isOver settings = true) :
    p.state.cache.entries.Perm p'.state.cache.entries := by
  refine Cache.entries_perm fun key => ?_
  by_cases hkey : ∀ d ∈ ds, d.kind = .bundled → cacheKey w base (d.url.getD "") ≠ .ok key
  · rw [h.others key hkey, h'.others key hkey]
  · push Not at hkey
    obtain ⟨d, hd, hk, hkey⟩ := hkey
    obtain ⟨i, hlt, hi⟩ := List.getElem_of_mem hd
    have hi : ds[i]? = some d := List.getElem?_eq_some_iff.mpr ⟨hlt, hi⟩
    obtain ⟨_, -, hsees⟩ := h.shared
    obtain ⟨_, -, hsees'⟩ := h'.shared
    rw [(hsees i d hi).lookup hk key hkey, (hsees' i d hi).lookup hk key hkey,
      Errand.alone_eq_of_isOver (isOver_alone_of_sound h hover hi)
        (isOver_alone_of_sound h' hover' hi)]

theorem fits_of_sound {steps : Nat → Nat} {p : Progress} (hapart : Apart w settings base n answers ds)
    (h : Sound w settings base cache n answers ds steps p) :
    List.Forall₂ (Errand.Fits w base) ds p.errands := by
  rw [h.errands, List.forall₂_iff_get]
  refine ⟨List.length_mapIdx.symm, fun i hi hi' => ?_⟩
  have hmem : ds[i] ∈ ds := List.getElem_mem hi
  simpa using Errand.fits_alone cache answers (hapart.valid _ hmem) (hapart.waits _ hmem)
    (hapart.keys _ hmem) (steps i)

/-- Errands that are over give one outcome for every library, and the warnings about those given up
are the ones that errands have. -/
theorem outcomes_of_fits {es : List Errand} (h : List.Forall₂ (Errand.Fits w base) ds es)
    (hover : ∀ e ∈ es, e.isOver settings = true) :
    ∃ os, es.mapM (Errand.outcome settings) = .ok os ∧
      ((ds.zip os).filterMap fun x => (Bundle.complaint? x.2).map (Bundle.dropWarning x.1)) =
        es.filterMap (Errand.warning? settings) := by
  induction h with
  | nil => exact ⟨[], rfl, rfl⟩
  | @cons d e ds es hfits _ ih =>
    obtain ⟨os, hos, hwarnings⟩ := ih fun e' he' => hover e' (List.mem_cons_of_mem _ he')
    -- an errand that is over has an outcome, and its complaint is its warning
    have hend : ∃ o, e.outcome settings = .ok o ∧
        (Bundle.complaint? o).map (Bundle.dropWarning d) = Errand.warning? settings e := by
      have he := hover e List.mem_cons_self
      cases hfits with
      | unstarted => cases he
      | asked hk hkey => cases he
      | idle hk => exact ⟨.unfetched, rfl, rfl⟩
      | @arrived content hk => exact ⟨.content content, rfl, rfl⟩
      | @waiting key complaint attempts hk hkey =>
        refine ⟨.givenUp (Download.finalComplaint settings complaint), rfl, ?_⟩
        have hclosed : ¬attempts < maxAttempts settings := by
          simpa [Errand.isOver, Download.isOpen] using he
        rw [Errand.warning?, if_neg hclosed]
        rfl
    obtain ⟨o, ho, hwarning⟩ := hend
    refine ⟨o :: os, ?_, ?_⟩
    · rw [List.mapM_cons, ho, hos]
      rfl
    · rw [List.zip_cons_cons, List.filterMap_cons, List.filterMap_cons, hwarning, hwarnings]

end Progress
end Storybind
