import Mathlib.Tactic
import Storybind.Proofs.Compile.Saving
import Storybind.Proofs.Dependency.Fields
import Storybind.Proofs.Distinct

/-!
Merging declarations. What merging gives is told by two things about the declarations that go in:
where each name stands first, and which declaration of it comes last. Lists that agree in both can
stand for each other, so merging in steps is merging at once.
-/

namespace Storybind.Declaration

open Distinct (eraseDups_concat eraseDups_filter eraseDups_of_nodup nodup_eraseDups)

/-- The last of some declarations with a name. -/
def lastNamed? (ds : List Declaration) (name : String) : Option Declaration :=
  (ds.filter fun d => d.name = name).getLast?

/-- One declaration of each name: the names stand in the order in which they stand first, and each
has its last declaration. -/
structure IsMerge (ds merged : List Declaration) : Prop where
  names : merged.map (·.name) = (ds.map (·.name)).eraseDups
  last : ∀ d ∈ merged, lastNamed? ds d.name = some d

variable {a b c ds ds' merged merged' : List Declaration} {d x : Declaration} {n : String}

/-! ### The last declaration of a name -/

theorem lastNamed?_append (a b : List Declaration) (n : String) :
    lastNamed? (a ++ b) n = (lastNamed? b n).or (lastNamed? a n) := by
  rw [lastNamed?, List.filter_append, List.getLast?_append]
  rfl

theorem lastNamed?_singleton (d : Declaration) (n : String) :
    lastNamed? [d] n = if d.name = n then some d else none := by
  by_cases h : d.name = n
  · simp [lastNamed?, h]
  · simp [lastNamed?, h]

theorem lastNamed?_eq_none : lastNamed? ds n = none ↔ n ∉ ds.map (·.name) := by
  rw [lastNamed?, List.getLast?_eq_none_iff, List.filter_eq_nil_iff, List.mem_map]
  simp

theorem mem_of_lastNamed? (h : lastNamed? ds n = some d) : d ∈ ds ∧ d.name = n := by
  have hmem := List.mem_filter.mp (List.mem_of_getLast? h)
  exact ⟨hmem.1, by simpa using hmem.2⟩

/-- Where names do not repeat, each declaration is the last of its name. -/
theorem lastNamed?_of_nodup (h : (ds.map (·.name)).Nodup) (hd : d ∈ ds) :
    lastNamed? ds d.name = some d := by
  cases hlast : lastNamed? ds d.name with
  | none => exact absurd (List.mem_map_of_mem hd) (lastNamed?_eq_none.mp hlast)
  | some x =>
    obtain ⟨hx, hname⟩ := mem_of_lastNamed? hlast
    rw [List.inj_on_of_nodup_map h hx hd hname]

/-! ### Names in the order of their first occurrence -/

/-- Where names stand first in two lists, one after the other, is told by where they stand first in
each. -/
theorem eraseDups_append_congr {as as' bs bs' : List String} (ha : as.eraseDups = as'.eraseDups)
    (hb : bs.eraseDups = bs'.eraseDups) : (as ++ bs).eraseDups = (as' ++ bs').eraseDups := by
  have hmem (m : String) : as.elem m = as'.elem m := by
    rw [Bool.eq_iff_iff, List.elem_iff, List.elem_iff, ← List.mem_eraseDups, ha,
      List.mem_eraseDups]
  have hleft : bs'.removeAll as = bs'.removeAll as' :=
    List.filter_congr fun m _ => congrArg (!·) (hmem m)
  calc (as ++ bs).eraseDups
      = as.eraseDups ++ bs.eraseDups.removeAll as := by
        rw [List.eraseDups_append, List.removeAll, eraseDups_filter, List.removeAll]
    _ = as'.eraseDups ++ bs'.eraseDups.removeAll as := by rw [ha, hb]
    _ = as'.eraseDups ++ (bs'.removeAll as).eraseDups := by
        rw [List.removeAll, List.removeAll, eraseDups_filter]
    _ = (as' ++ bs').eraseDups := by rw [hleft, List.eraseDups_append]

/-! ### Taking in a declaration -/

theorem names_place (d : Declaration) (merged : List Declaration) :
    (place d merged).map (·.name) =
      if d.name ∈ merged.map (·.name) then merged.map (·.name)
      else merged.map (·.name) ++ [d.name] := by
  induction merged with
  | nil => rfl
  | cons x rest ih =>
    by_cases hx : x.name = d.name
    · simp [place, hx]
    · rw [place, if_neg hx, List.map_cons, ih, List.map_cons]
      by_cases hrest : d.name ∈ rest.map (·.name)
      · rw [if_pos hrest, if_pos (List.mem_cons_of_mem _ hrest)]
      · have hnone : d.name ∉ x.name :: rest.map (·.name) :=
          List.not_mem_cons_of_ne_of_not_mem (Ne.symm hx) hrest
        rw [if_neg hrest, if_neg hnone, List.cons_append]

/-- A declaration takes the place of the one of its name, and the others stay. -/
theorem mem_place (h : (merged.map (·.name)).Nodup) :
    x ∈ place d merged ↔ x = d ∨ x ∈ merged ∧ x.name ≠ d.name := by
  induction merged with
  | nil => simp [place]
  | cons y rest ih =>
    obtain ⟨hy, hrest⟩ := List.nodup_cons.mp h
    rw [place]
    split
    · next hname =>
      -- names are distinct, so nothing behind it has the name that is replaced
      have hother : ∀ z ∈ rest, z.name ≠ d.name := by
        intro z hz hzd
        apply hy
        show y.name ∈ rest.map (·.name)
        rw [hname, ← hzd]
        exact List.mem_map_of_mem hz
      simp only [List.mem_cons]
      constructor
      · rintro (rfl | hx)
        · exact .inl rfl
        · exact .inr ⟨.inr hx, hother x hx⟩
      · rintro (rfl | ⟨rfl | hx, hne⟩)
        · exact .inl rfl
        · exact absurd hname hne
        · exact .inr hx
    · next hname =>
      rw [List.mem_cons, List.mem_cons, ih hrest]
      constructor
      · rintro (rfl | rfl | ⟨hx, hne⟩)
        · exact .inr ⟨.inl rfl, hname⟩
        · exact .inl rfl
        · exact .inr ⟨.inr hx, hne⟩
      · rintro (rfl | ⟨rfl | hx, hne⟩)
        · exact .inr (.inl rfl)
        · exact .inl rfl
        · exact .inr (.inr ⟨hx, hne⟩)

theorem IsMerge.nodup (h : IsMerge ds merged) : (merged.map (·.name)).Nodup := by
  rw [h.names]
  exact nodup_eraseDups _

/-- One more declaration keeps the names where they are and counts from now on. -/
theorem IsMerge.place (h : IsMerge ds merged) (d : Declaration) :
    IsMerge (ds ++ [d]) (place d merged) := by
  have hmem : d.name ∈ merged.map (·.name) ↔ d.name ∈ ds.map (·.name) := by
    rw [h.names, List.mem_eraseDups]
  constructor
  · rw [names_place, List.map_append, List.map_singleton, eraseDups_concat, ← h.names]
    simp only [hmem]
  · intro x hx
    rw [lastNamed?_append, lastNamed?_singleton]
    rcases (mem_place h.nodup).mp hx with rfl | ⟨hx, hne⟩
    · rw [if_pos rfl, Option.some_or]
    · rw [if_neg (Ne.symm hne), Option.none_or]
      exact h.last x hx

/-- Taking in declarations one after another merges them. -/
theorem isMerge_foldl (ds : List Declaration) :
    IsMerge ds (ds.foldl (fun merged d => place d merged) []) := by
  induction ds using List.reverseRecOn with
  | nil => exact ⟨by simp, fun d hd => absurd hd List.not_mem_nil⟩
  | append_singleton ds d ih =>
    rw [List.foldl_append]
    exact ih.place d

theorem isMerge_merge (lists : List (List Declaration)) : IsMerge lists.flatten (merge lists) :=
  isMerge_foldl lists.flatten

/-! ### Lists that merge alike -/

/-- Lists with the same names in the same order, and the same last declaration of each. -/
structure MergeAlike (ds ds' : List Declaration) : Prop where
  names : (ds.map (·.name)).eraseDups = (ds'.map (·.name)).eraseDups
  last : ∀ n, lastNamed? ds n = lastNamed? ds' n

theorem MergeAlike.refl (ds : List Declaration) : MergeAlike ds ds := ⟨rfl, fun _ => rfl⟩

theorem MergeAlike.append (ha : MergeAlike a ds) (hb : MergeAlike b ds') :
    MergeAlike (a ++ b) (ds ++ ds') := by
  constructor
  · rw [List.map_append, List.map_append]
    exact eraseDups_append_congr ha.names hb.names
  · intro n
    rw [lastNamed?_append, lastNamed?_append, ha.last, hb.last]

/-- A merge can stand for what was merged. -/
theorem IsMerge.alike (h : IsMerge ds merged) : MergeAlike merged ds := by
  have hnames : (merged.map (·.name)).eraseDups = merged.map (·.name) :=
    eraseDups_of_nodup h.nodup
  refine ⟨hnames.trans h.names, fun n => ?_⟩
  by_cases hn : n ∈ merged.map (·.name)
  · obtain ⟨d, hd, rfl⟩ := List.mem_map.mp hn
    rw [lastNamed?_of_nodup h.nodup hd, h.last d hd]
  · have hds : n ∉ ds.map (·.name) := by
      rw [← List.mem_eraseDups, ← h.names]
      exact hn
    rw [lastNamed?_eq_none.mpr hn, lastNamed?_eq_none.mpr hds]

/-- What is at a place of a merge is the last declaration of the name there. -/
theorem IsMerge.getElem? (h : IsMerge ds merged) (i : Nat) :
    merged[i]? = (ds.map (·.name)).eraseDups[i]?.bind (lastNamed? ds) := by
  rw [← h.names, List.getElem?_map]
  cases hi : merged[i]? with
  | none => rfl
  | some d => exact (h.last d (List.mem_of_getElem? hi)).symm

theorem IsMerge.eq_of_alike (h : IsMerge ds merged) (h' : IsMerge ds' merged')
    (halike : MergeAlike ds ds') : merged = merged' := by
  refine List.ext_getElem? fun i => ?_
  rw [h.getElem? i, h'.getElem? i, halike.names]
  exact congrArg (Option.bind _) (funext halike.last)

theorem merge_congr {lists lists' : List (List Declaration)}
    (h : MergeAlike lists.flatten lists'.flatten) : merge lists = merge lists' :=
  (isMerge_merge lists).eq_of_alike (isMerge_merge lists') h

theorem mergeAlike_groups (groups : List (List (List Declaration))) :
    MergeAlike (groups.map merge).flatten groups.flatten.flatten := by
  induction groups with
  | nil => exact .refl []
  | cons g rest ih =>
    rw [List.map_cons, List.flatten_cons, List.flatten_cons, List.flatten_append]
    exact (isMerge_merge g).alike.append ih

/-- Merging groups and then what they give is merging everything at once. -/
theorem merge_map_merge (groups : List (List (List Declaration))) :
    merge (groups.map merge) = merge groups.flatten :=
  merge_congr (mergeAlike_groups groups)

theorem merge_merge_left (a b c : List Declaration) : merge [merge [a, b], c] = merge [a, b, c] := by
  have halike : MergeAlike (merge [a, b] ++ c) ([a, b].flatten ++ c) :=
    (isMerge_merge [a, b]).alike.append (.refl c)
  exact merge_congr (by simpa using halike)

theorem merge_merge_right (a b c : List Declaration) : merge [a, merge [b, c]] = merge [a, b, c] := by
  have halike : MergeAlike (a ++ merge [b, c]) (a ++ [b, c].flatten) :=
    (MergeAlike.refl a).append (isMerge_merge [b, c]).alike
  exact merge_congr (by simpa using halike)

/-- Declarations that are merged with themselves stay as they are. -/
theorem merge_self (lists : List (List Declaration)) :
    merge [merge lists, merge lists] = merge lists := by
  have hnodup : ((merge lists).map (·.name)).Nodup := (isMerge_merge lists).nodup
  have hself : IsMerge (merge lists) (merge lists) :=
    ⟨(eraseDups_of_nodup hnodup).symm, fun d hd => lastNamed?_of_nodup hnodup hd⟩
  have htwice : MergeAlike [merge lists, merge lists].flatten (merge lists) := by
    rw [List.flatten_cons, List.flatten_singleton]
    constructor
    · rw [List.map_append, List.eraseDups_append]
      have hnothing : ((merge lists).map (·.name)).removeAll ((merge lists).map (·.name)) = [] := by
        simp [List.removeAll]
      rw [hnothing]
      simp
    · intro n
      rw [lastNamed?_append, Option.or_self]
  exact (isMerge_merge [merge lists, merge lists]).eq_of_alike hself htwice

/-- Declarations that come later stand where one of their name stood before. -/
theorem merge_getElem?_of_own {own added : List Declaration} {i : Nat}
    (h : (merge [own])[i]? = some d) :
    (merge [own, added])[i]? = some ((lastNamed? added d.name).getD d) := by
  have hown := isMerge_merge [own]
  rw [List.flatten_singleton] at hown
  have hboth : IsMerge (own ++ added) (merge [own, added]) := by
    simpa using isMerge_merge [own, added]
  have hname : (own.map (·.name)).eraseDups[i]? = some d.name := by
    rw [← hown.names, List.getElem?_map, h]
    rfl
  have hplace : ((own ++ added).map (·.name)).eraseDups[i]? = some d.name := by
    obtain ⟨hi, -⟩ := List.getElem?_eq_some_iff.mp hname
    rw [List.map_append, List.eraseDups_append, List.getElem?_append_left hi, hname]
  have hlast : lastNamed? own d.name = some d := hown.last d (List.mem_of_getElem? h)
  rw [hboth.getElem? i, hplace, Option.bind_some, lastNamed?_append, hlast]
  cases lastNamed? added d.name <;> rfl

theorem eq_merge_of_librariesOf {c : Compiler} {r : Request} {story : Story}
    {libraries : List Declaration} {warnings : List String}
    (h : c.librariesOf r story = .ok (libraries, warnings)) :
    libraries = merge [(Declared.ofScript c.presets c.settings.packageAddress
        (story.part "dependencies") (story.part "dependencies_quick")).1.declarations,
      (c.addLibraries r.libraries .empty).1.declarations] := by
  unfold Compiler.librariesOf at h
  split at h
  · cases h
  · next own hown =>
    split at h
    · cases h
    · next added hadded =>
      obtain ⟨rfl, -⟩ := Prod.mk.inj (Except.ok.inj h)
      rw [hown, hadded]

/-! ### One declaration of each name -/

/-- Merging gives one declaration of each name, where the name stands first and as it is declared
last. So it does not matter in which groups lists are merged, a merge changes nothing about itself,
and what a caller adds to the libraries of a story overrides them where they stand. -/
theorem merge_by_name (lists : List (List Declaration)) :
    (((merge lists).map (·.name)).Nodup ∧
      (merge lists).map (·.name) = (lists.flatten.map (·.name)).eraseDups ∧
      ∀ d ∈ merge lists, lastNamed? lists.flatten d.name = some d) ∧
    (∀ a b c, merge [merge [a, b], c] = merge [a, b, c] ∧
      merge [a, merge [b, c]] = merge [a, b, c]) ∧
    (∀ groups : List (List (List Declaration)),
      merge (groups.map merge) = merge groups.flatten) ∧
    merge [merge lists, merge lists] = merge lists ∧
    (∀ (own added : List Declaration) (i : Nat) (d : Declaration), (merge [own])[i]? = some d →
      (merge [own, added])[i]? = some ((lastNamed? added d.name).getD d)) ∧
    ∀ (c : Compiler) (r : Request) (story : Story) (libraries : List Declaration)
      (warnings : List String), c.librariesOf r story = .ok (libraries, warnings) →
      libraries = merge [(Declared.ofScript c.presets c.settings.packageAddress
          (story.part "dependencies") (story.part "dependencies_quick")).1.declarations,
        (c.addLibraries r.libraries .empty).1.declarations] := by
  have hmerge := isMerge_merge lists
  refine ⟨⟨hmerge.nodup, hmerge.names, hmerge.last⟩, ?_, merge_map_merge, merge_self lists, ?_, ?_⟩
  · intro a b c
    exact ⟨merge_merge_left a b c, merge_merge_right a b c⟩
  · intro own added i d h
    exact merge_getElem?_of_own h
  · intro c r story libraries warnings h
    exact eq_merge_of_librariesOf h

/-- Libraries of a story, and one of them as a caller declares it. -/
def kit : Declaration := plain "kit" .remote none "https://cdn.example/"

def menu : Declaration := plain "menu" .remote none "https://cdn.example/"

def kitAnew : Declaration := plain "kit" .bundled none "/kit.js"

def kitStory : Story :=
  ⟨Entries.ofTexts [("dependencies_quick", .ofList [.text "kit", .text "menu"])], 0, []⟩

def kitRequest : Request := { Compiler.order with libraries := [.declared kitAnew] }

theorem merge_by_name_anew :
    (merge [[kit, menu]])[0]? = some kit ∧ (merge [[kit, menu], [kitAnew]])[0]? = some kitAnew ∧
      (Compiler.booth Output.noRefusals).librariesOf kitRequest kitStory = .ok ([kitAnew, menu], []) ∧
      [kitAnew, menu] = merge [(Declared.ofScript [] "https://cdn.example/"
        (kitStory.part "dependencies") (kitStory.part "dependencies_quick")).1.declarations,
        [kitAnew]] := by
  have hfirst : (merge [[kit, menu]])[0]? = some kit := by decide +kernel
  have hlibraries : (Compiler.booth Output.noRefusals).librariesOf kitRequest kitStory =
      .ok ([kitAnew, menu], []) := by decide +kernel
  have hmerge := merge_by_name [[kit, menu], [kitAnew]]
  refine ⟨hfirst, ?_, hlibraries, ?_⟩
  · have hlast : (lastNamed? [kitAnew] kit.name).getD kit = kitAnew := by decide +kernel
    have hplace := hmerge.2.2.2.2.1 [kit, menu] [kitAnew] 0 kit hfirst
    rwa [hlast] at hplace
  · exact hmerge.2.2.2.2.2 _ _ _ _ _ hlibraries

end Storybind.Declaration
