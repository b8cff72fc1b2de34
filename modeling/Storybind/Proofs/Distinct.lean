import Mathlib.Tactic

/-!
Lists without repetitions, in the order of first occurrence, what is kept of a list when the first item
with each key is kept, and what is found under a key.
-/

namespace Storybind.Distinct

variable {α β κ : Type}

/-- What distinct items lead to is distinct exactly if different items lead to different things. -/
theorem nodup_filterMap_iff {f : α → Option β} {xs : List α} (h : xs.Nodup) : (xs.filterMap f).Nodup ↔
    ∀ x ∈ xs, ∀ y ∈ xs, ∀ b, f x = some b → f y = some b → x = y := by
  rw [List.nodup_iff_pairwise_ne, List.pairwise_filterMap]
  constructor
  · intro hpairs x hx y hy b hxb hyb
    by_contra hne
    have hsymm : Std.Symm fun x y => ∀ a, f x = some a → ∀ b, f y = some b → a ≠ b :=
      ⟨fun x y hxy a ha b hb hab => hxy b hb a ha hab.symm⟩
    exact hpairs.forall hx hy hne b hxb b hyb rfl
  · intro hitems
    refine h.pairwise_of_forall_ne fun x hx y hy hne a ha b hb hab => ?_
    exact hne (hitems x hx y hy b (hab ▸ ha) hb)

/-! ### Without repetitions -/

variable [BEq α] [LawfulBEq α]

/-- A list without its repetitions holds each item once. -/
theorem nodup_eraseDups (xs : List α) : xs.eraseDups.Nodup := by
  match xs with
  | [] => simp
  | x :: rest =>
    rw [List.eraseDups_cons, List.nodup_cons]
    refine ⟨fun hmem => ?_, nodup_eraseDups _⟩
    rw [List.mem_eraseDups] at hmem
    simpa using (List.mem_filter.mp hmem).2
termination_by xs.length
decreasing_by
  exact Nat.lt_succ_of_le (List.length_filter_le _ _)

theorem eraseDups_filter {p : α → Bool} (xs : List α) :
    (xs.filter p).eraseDups = xs.eraseDups.filter p := by
  match xs with
  | [] => rfl
  | m :: rest =>
    have ih := eraseDups_filter (p := p) (rest.filter fun k => !k == m)
    rw [List.filter_filter] at ih
    rw [List.eraseDups_cons, List.filter_cons, List.filter_cons]
    by_cases hp : p m = true
    · rw [if_pos hp, if_pos hp, List.eraseDups_cons, List.filter_filter, ← ih]
      simp only [Bool.and_comm]
    · -- what is left of the rest holds no `m` anyway
      have hfilter : rest.filter (fun k => p k && !k == m) = rest.filter p := by
        refine List.filter_congr fun k _ => ?_
        by_cases hk : k = m
        · rw [hk, Bool.eq_false_iff.mpr hp, Bool.false_and]
        · simp [hk]
      rw [if_neg hp, if_neg hp, ← ih, hfilter]
termination_by xs.length
decreasing_by
  exact Nat.lt_succ_of_le (List.length_filter_le _ _)

theorem eraseDups_of_nodup {xs : List α} (h : xs.Nodup) : xs.eraseDups = xs := by
  induction xs with
  | nil => rfl
  | cons m rest ih =>
    obtain ⟨hm, hrest⟩ := List.nodup_cons.mp h
    have hfilter : (rest.filter fun k => !k == m) = rest := by
      refine List.filter_eq_self.mpr fun k hk => ?_
      simpa using fun hkm : k = m => hm (hkm ▸ hk)
    rw [List.eraseDups_cons, hfilter, ih hrest]

theorem eraseDups_concat (xs : List α) (m : α) :
    (xs ++ [m]).eraseDups = if m ∈ xs then xs.eraseDups else xs.eraseDups ++ [m] := by
  rw [List.eraseDups_append]
  by_cases h : m ∈ xs
  · simp [List.removeAll, h]
  · simp [List.removeAll, h, eraseDups_of_nodup]

theorem eraseDups_map [BEq κ] [LawfulBEq κ] {f : α → κ} (hf : f.Injective) (xs : List α) :
    (xs.map f).eraseDups = xs.eraseDups.map f := by
  induction xs using List.reverseRecOn with
  | nil => rfl
  | append_singleton xs x ih =>
    rw [List.map_append, List.map_singleton, eraseDups_concat, eraseDups_concat, ih]
    by_cases hx : x ∈ xs
    · rw [if_pos hx, if_pos (List.mem_map_of_mem hx)]
    · rw [if_neg hx, if_neg (mt (List.mem_map_of_injective hf).mp hx), List.map_append,
        List.map_singleton]

/-! ### The first item with each key -/

section
variable [DecidableEq κ] {key : β → κ} {a : β} {xs : List β}

/-- The items of a list, of those with one key only the first. -/
def keepFirst (key : β → κ) (xs : List β) : List β :=
  xs.foldl (fun done x => if key x ∈ done.map key then done else done ++ [x]) []

theorem keepFirst_concat (key : β → κ) (xs : List β) (x : β) : keepFirst key (xs ++ [x]) =
    if key x ∈ (keepFirst key xs).map key then keepFirst key xs else keepFirst key xs ++ [x] := by
  rw [keepFirst, List.foldl_append]
  rfl

theorem map_keepFirst [BEq κ] [LawfulBEq κ] (key : β → κ) (xs : List β) :
    (keepFirst key xs).map key = (xs.map key).eraseDups := by
  induction xs using List.reverseRecOn with
  | nil => rfl
  | append_singleton xs x ih =>
    have hmem : key x ∈ (keepFirst key xs).map key ↔ key x ∈ xs.map key := by
      rw [ih, List.mem_eraseDups]
    rw [keepFirst_concat, List.map_append, List.map_singleton, eraseDups_concat]
    by_cases hx : key x ∈ xs.map key
    · rw [if_pos (hmem.mpr hx), if_pos hx, ih]
    · rw [if_neg (mt hmem.mp hx), if_neg hx, List.map_append, ih, List.map_singleton]

/-- An item is kept if it is the first with its key. -/
theorem mem_keepFirst : a ∈ keepFirst key xs ↔ xs.find? (fun x => key x = key a) = some a := by
  -- from the end: the last item is kept if none before it has its key
  induction xs using List.reverseRecOn with
  | nil => exact iff_of_false List.not_mem_nil (by simp)
  | append_singleton xs x ih =>
    have hmem : key x ∈ (keepFirst key xs).map key ↔ key x ∈ xs.map key := by
      rw [map_keepFirst, List.mem_eraseDups]
    have hnone : xs.find? (fun y => key y = key a) = none ↔ key a ∉ xs.map key := by
      rw [List.find?_eq_none, List.mem_map]
      simp
    have hlast : [x].find? (fun y => key y = key a) = some a ↔ a = x := by
      rw [List.find?_singleton]
      constructor
      · intro h
        split at h
        · exact (Option.some.inj h).symm
        · cases h
      · rintro rfl
        rw [if_pos (decide_eq_true rfl)]
    rw [keepFirst_concat, List.find?_append, Option.or_eq_some_iff, ← ih, hnone, hlast]
    by_cases hx : key x ∈ xs.map key
    · rw [if_pos (hmem.mpr hx)]
      refine ⟨.inl, ?_⟩
      rintro (h | ⟨hnew, rfl⟩)
      · exact h
      · exact absurd hx hnew
    · rw [if_neg (mt hmem.mp hx), List.mem_append, List.mem_singleton]
      refine or_congr_right ⟨?_, And.right⟩
      rintro rfl
      exact ⟨hx, rfl⟩

end

/-! ### What is found under a key -/

section
variable [BEq κ] [LawfulBEq κ] {xs : List (κ × β)} {key : κ} {b : β}

theorem mem_of_lookup (h : xs.lookup key = some b) : (key, b) ∈ xs := by
  obtain ⟨before, after, hxs, -⟩ := List.lookup_eq_some_iff.mp h
  rw [hxs]
  exact List.mem_append_right before List.mem_cons_self

/-- Where no key stands twice, all that stands there is found. -/
theorem lookup_eq_some_iff_mem (h : (xs.map Prod.fst).Nodup) :
    xs.lookup key = some b ↔ (key, b) ∈ xs := by
  refine ⟨mem_of_lookup, fun hmem => ?_⟩
  obtain ⟨before, after, rfl⟩ := List.append_of_mem hmem
  refine List.lookup_eq_some_iff.mpr ⟨before, after, rfl, fun x hx => ?_⟩
  rw [List.map_append, List.map_cons, List.nodup_append] at h
  have hne : x.1 ≠ key := h.2.2 x.1 (List.mem_map_of_mem hx) key List.mem_cons_self
  simpa using Ne.symm hne

end

end Storybind.Distinct
