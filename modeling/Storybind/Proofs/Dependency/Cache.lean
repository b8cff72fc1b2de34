import Mathlib.Tactic
import Storybind.Dependency.Cache

/-!
Look-up in a cache after content was taken in, and caches that answer alike. After steps of any kind in
any order a cache holds for each location the content that was put last while it was on, unless it was
cleared since. Whether it is on at the moment decides what it gives, not what it holds.
-/

namespace Storybind.Cache

theorem lookup_insert (location content l : String) (entries : List (String × String)) :
    (insert location content entries).lookup l =
      if l = location then some content else entries.lookup l := by
  induction entries with
  | nil =>
    rw [insert, List.lookup_singleton]
    simp
  | cons e rest ih =>
    obtain ⟨m, x⟩ := e
    rw [insert]
    split
    · next hm =>
      subst hm
      by_cases hl : l = m
      · rw [if_pos hl, hl, List.lookup_cons_self]
      · rw [if_neg hl, List.lookup_cons, List.lookup_cons, beq_eq_false_iff_ne.mpr hl]
    · next hm =>
      by_cases hl : l = m
      · subst hl
        rw [if_neg hm, List.lookup_cons_self, List.lookup_cons_self]
      · rw [List.lookup_cons, beq_eq_false_iff_ne.mpr hl, ih, List.lookup_cons,
          beq_eq_false_iff_ne.mpr hl]

@[simp] theorem enabled_put (location content : String) (c : Cache) :
    (c.put location content).enabled = c.enabled := by
  unfold put
  split <;> rfl

theorem lookup_put (location content l : String) (c : Cache) :
    (c.put location content).entries.lookup l =
      if c.enabled = true ∧ l = location then some content else c.entries.lookup l := by
  unfold put
  by_cases hc : c.enabled
  · simp only [hc, if_true, true_and]
    exact lookup_insert location content l c.entries
  · simp [hc]

theorem mem_entries_iff (c : Cache) (l x : String) :
    (l, x) ∈ c.entries ↔ c.entries.lookup l = some x := by
  have h := c.nodup
  generalize c.entries = entries at h
  induction entries with
  | nil => simp
  | cons e rest ih =>
    obtain ⟨m, y⟩ := e
    have hn := List.nodup_cons.mp h
    by_cases hl : l = m
    · subst hl
      have hx : (l, x) ∉ rest := fun hmem => hn.1 (List.mem_map.mpr ⟨(l, x), hmem, rfl⟩)
      rw [List.lookup_cons_self, List.mem_cons, or_iff_left hx]
      simp [eq_comm]
    · have hrest : (l, x) ∈ rest ↔ rest.lookup l = some x := ih hn.2
      rw [List.lookup_cons, beq_eq_false_iff_ne.mpr hl, ← hrest, List.mem_cons]
      simp [hl]

/-- Caches that hold the same content for every location hold the same entries. -/
theorem entries_perm {c c' : Cache}
    (h : ∀ l, c.entries.lookup l = c'.entries.lookup l) : c.entries.Perm c'.entries := by
  rw [List.perm_ext_iff_of_nodup (List.Nodup.of_map _ c.nodup) (List.Nodup.of_map _ c'.nodup)]
  rintro ⟨l, x⟩
  rw [mem_entries_iff, mem_entries_iff, h]

/-! ### Steps -/

/-- What can be done with a cache. -/
inductive Step where
  | get (location : String)
  | put (location content : String)
  | has (location : String)
  | clear
  | turn (on : Bool)

/-- The cache after a step. -/
def after (c : Cache) : Step → Cache
  | .get _ | .has _ => c
  | .put location content => c.put location content
  | .clear => c.clear
  | .turn on => { c with enabled := on }

/-- The cache after steps, one after another. -/
def run (steps : List Step) (c : Cache) : Cache := steps.foldl after c

theorem run_concat (steps : List Step) (s : Step) (c : Cache) :
    run (steps ++ [s]) c = (run steps c).after s := by
  rw [run, List.foldl_append]
  rfl

/-! ### What the steps say -/

/-- Whether a step turns the cache on or off. -/
def Step.switch? : Step → Option Bool
  | .turn on => some on
  | _ => none

/-- Whether a cache is on after steps: as it was turned last. -/
def isOn (start : Bool) (steps : List Step) : Bool :=
  (steps.filterMap Step.switch?).getLast?.getD start

/-- Whether content was put for a location while the cache was on, and the cache was not cleared
since. -/
def Kept (start : Bool) (steps : List Step) (location content : String) : Prop :=
  ∃ before rest, steps = before ++ .put location content :: rest ∧ isOn start before = true ∧
    .clear ∉ rest

/-- Whether content is the last that was so put for a location. -/
def Latest (start : Bool) (steps : List Step) (location content : String) : Prop :=
  ∃ before rest, steps = before ++ .put location content :: rest ∧ isOn start before = true ∧
    .clear ∉ rest ∧ ∀ x, ¬Kept (isOn start before) rest location x

variable {start : Bool} {steps : List Step} {s : Step} {l x : String}

theorem isOn_append (start : Bool) (steps rest : List Step) :
    isOn start (steps ++ rest) = isOn (isOn start steps) rest := by
  simp only [isOn, List.filterMap_append, List.getLast?_append]
  cases (rest.filterMap Step.switch?).getLast? <;> rfl

theorem isOn_put (start : Bool) (before rest : List Step) (location content : String) :
    isOn start (before ++ .put location content :: rest) = isOn (isOn start before) rest :=
  isOn_append start before (.put location content :: rest)

theorem isOn_concat (start : Bool) (steps : List Step) (s : Step) :
    isOn start (steps ++ [s]) = s.switch?.getD (isOn start steps) := by
  rw [isOn_append]
  cases s <;> rfl

theorem concat_eq_split {before rest : List Step} {t : Step} :
    steps ++ [s] = before ++ t :: rest ↔ (rest = [] ∧ steps = before ∧ s = t) ∨
      ∃ rest', rest = rest' ++ [s] ∧ steps = before ++ t :: rest' := by
  constructor
  · intro h
    rcases List.eq_nil_or_concat rest with rfl | ⟨rest', u, rfl⟩
    · obtain ⟨hsteps, hs⟩ := List.append_inj' h rfl
      exact .inl ⟨rfl, hsteps, List.singleton_injective hs⟩
    · rw [List.concat_eq_append, ← List.cons_append, ← List.append_assoc] at h
      obtain ⟨hsteps, hs⟩ := List.append_inj' h rfl
      exact .inr ⟨rest', by rw [List.concat_eq_append, hs], hsteps⟩
  · rintro (⟨rfl, rfl, rfl⟩ | ⟨rest', rfl, rfl⟩)
    · rfl
    · rw [List.append_assoc, List.cons_append]

/-- A step keeps what was kept unless it clears, and keeps what it puts if the cache is on. -/
theorem kept_concat : Kept start (steps ++ [s]) l x ↔
    (s = .put l x ∧ isOn start steps = true) ∨ (s ≠ .clear ∧ Kept start steps l x) := by
  constructor
  · rintro ⟨before, rest, heq, hon, hclear⟩
    obtain ⟨-, rfl, rfl⟩ | ⟨rest', rfl, rfl⟩ := concat_eq_split.mp heq
    · exact .inl ⟨rfl, hon⟩
    · rw [List.mem_append, List.mem_singleton, not_or] at hclear
      exact .inr ⟨Ne.symm hclear.2, before, rest', rfl, hon, hclear.1⟩
  · rintro (⟨rfl, hon⟩ | ⟨hs, before, rest, rfl, hon, hclear⟩)
    · exact ⟨steps, [], rfl, hon, List.not_mem_nil⟩
    · refine ⟨before, rest ++ [s], by simp, hon, ?_⟩
      rw [List.mem_append, List.mem_singleton, not_or]
      exact ⟨hclear, Ne.symm hs⟩

/-- A step leaves the latest content the latest, unless it clears or puts other content while the cache
is on. -/
theorem latest_concat : Latest start (steps ++ [s]) l x ↔
    (s = .put l x ∧ isOn start steps = true) ∨ (s ≠ .clear ∧ Latest start steps l x ∧
      ∀ y, ¬(s = .put l y ∧ isOn start steps = true)) := by
  have hrest (before rest : List Step) : (∀ y, ¬Kept (isOn start before) (rest ++ [s]) l y) ↔
      (∀ y, ¬(s = .put l y ∧ isOn start (before ++ .put l x :: rest) = true)) ∧
        (s ≠ .clear → ∀ y, ¬Kept (isOn start before) rest l y) := by
    simp only [kept_concat, isOn_put, not_or, forall_and, not_and]
    refine and_congr_right fun _ => ⟨fun h hs y => h y hs, fun h y hs => h hs y⟩
  constructor
  · rintro ⟨before, rest, heq, hon, hclear, hlast⟩
    obtain ⟨-, rfl, rfl⟩ | ⟨rest', rfl, rfl⟩ := concat_eq_split.mp heq
    · exact .inl ⟨rfl, hon⟩
    · rw [List.mem_append, List.mem_singleton, not_or] at hclear
      obtain ⟨hother, hkept⟩ := (hrest before rest').mp hlast
      exact .inr ⟨Ne.symm hclear.2,
        ⟨before, rest', rfl, hon, hclear.1, hkept (Ne.symm hclear.2)⟩, hother⟩
  · rintro (⟨rfl, hon⟩ | ⟨hs, ⟨before, rest, rfl, hon, hclear, hlast⟩, hother⟩)
    · refine ⟨steps, [], rfl, hon, List.not_mem_nil, ?_⟩
      rintro y ⟨before, rest, heq, -⟩
      exact absurd heq (by simp)
    · refine ⟨before, rest ++ [s], by simp, hon, ?_, (hrest before rest).mpr ⟨hother, fun _ => hlast⟩⟩
      rw [List.mem_append, List.mem_singleton, not_or]
      exact ⟨hclear, Ne.symm hs⟩

/-! ### What the cache holds -/

theorem enabled_run (steps : List Step) (c : Cache) : (run steps c).enabled = isOn c.enabled steps := by
  induction steps using List.reverseRecOn with
  | nil => rfl
  | append_singleton steps s ih =>
    rw [run_concat, isOn_concat, ← ih]
    cases s with
    | put location content => exact enabled_put location content _
    | _ => rfl

/-- A step changes what is held for a location only if it puts content there while the cache is on, or
clears. -/
theorem lookup_after (c : Cache) (s : Step) (l x : String) :
    (c.after s).entries.lookup l = some x ↔ (s = .put l x ∧ c.enabled = true) ∨
      (s ≠ .clear ∧ c.entries.lookup l = some x ∧ ∀ y, ¬(s = .put l y ∧ c.enabled = true)) := by
  cases s with
  | put location content =>
    rw [after, lookup_put]
    by_cases hput : c.enabled = true ∧ l = location
    · obtain ⟨hon, rfl⟩ := hput
      simp [hon]
    · have hother : ∀ y, ¬(Step.put location content = .put l y ∧ c.enabled = true) := by
        rintro y ⟨heq, hon⟩
        cases heq
        exact hput ⟨hon, rfl⟩
      rw [if_neg hput]
      exact ⟨fun h => .inr ⟨nofun, h, hother⟩, fun h => (h.resolve_left (hother x)).2.1⟩
  | clear => simp [after, Cache.clear]
  | get location => simp [after]
  | has location => simp [after]
  | turn on => simp [after]

theorem lookup_run (start : Bool) (steps : List Step) (l x : String) :
    (run steps (empty start)).entries.lookup l = some x ↔ Latest start steps l x := by
  induction steps using List.reverseRecOn with
  | nil =>
    refine ⟨nofun, ?_⟩
    rintro ⟨before, rest, heq, -⟩
    exact absurd heq (by simp)
  | append_singleton steps s ih =>
    have hon : (run steps (empty start)).enabled = isOn start steps := enabled_run steps _
    rw [run_concat, lookup_after, latest_concat, ih, hon]

/-- Where content is kept, some content is the latest. -/
theorem exists_latest_iff : (∃ x, Latest start steps l x) ↔ ∃ x, Kept start steps l x := by
  induction steps using List.reverseRecOn with
  | nil =>
    constructor
    all_goals
      rintro ⟨x, before, rest, heq, -⟩
      exact absurd heq (by simp)
  | append_singleton steps s ih =>
    simp only [latest_concat, kept_concat, exists_or]
    by_cases hput : ∃ x, s = .put l x ∧ isOn start steps = true
    · simp only [hput, true_or]
    · have hother : ∀ x, ¬(s = .put l x ∧ isOn start steps = true) := not_exists.mp hput
      simp only [hother, exists_false, false_or, not_false_eq_true, implies_true, and_true,
        exists_and_left, ih]

theorem has_iff_mem {c : Cache} : c.has l = true ↔ l ∈ c.entries.map Prod.fst := by
  rw [has, Option.isSome_iff_exists, List.mem_map]
  simp only [← mem_entries_iff, Prod.exists, exists_and_right, exists_eq_right]

/-- A cache gives, while it is on, the last content that was put for a location while it was on and
that was not cleared since, and nothing otherwise. On or off, it has the locations for which content was
so put, and its size is their number. -/
theorem run_retains (start : Bool) (steps : List Step) :
    (∀ l x, (run steps (empty start)).get? l = some x ↔
      isOn start steps = true ∧ Latest start steps l x) ∧
    (∀ l, (run steps (empty start)).has l = true ↔ ∃ x, Kept start steps l x) ∧
    (run steps (empty start)).size = Set.encard {l | ∃ x, Kept start steps l x} := by
  have hon : (run steps (empty start)).enabled = isOn start steps := enabled_run steps _
  have hhas (l : String) : (run steps (empty start)).has l = true ↔ ∃ x, Kept start steps l x := by
    rw [has, Option.isSome_iff_exists, ← exists_latest_iff]
    exact exists_congr fun x => lookup_run start steps l x
  refine ⟨fun l x => ?_, hhas, ?_⟩
  · rw [get?, hon, ← lookup_run]
    cases isOn start steps <;> simp
  · -- the locations of the entries are those, each once
    have hlocations : {l | ∃ x, Kept start steps l x} =
        ((run steps (empty start)).entries.map Prod.fst).toFinset := by
      ext l
      simp only [Set.mem_ofPred_eq, List.coe_toFinset, ← hhas, has_iff_mem]
    rw [hlocations, Set.encard_coe_eq_coe_finsetCard,
      List.toFinset_card_of_nodup (run steps (empty start)).nodup, List.length_map, size]

/-- Content that is put while a cache is off is not taken, and what was put before is held, though it is
not given until the cache is on again. -/
example : let c := run [.put "a" "1", .turn false, .put "a" "2", .put "b" "3"] (empty true)
    c.get? "a" = none ∧ c.has "a" = true ∧ c.size = 1 ∧ (c.after (.turn true)).get? "a" = some "1" := by
  decide

end Storybind.Cache
