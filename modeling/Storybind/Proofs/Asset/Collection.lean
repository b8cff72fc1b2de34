import Mathlib.Tactic
import Storybind.Proofs.Asset.Files
import Storybind.Proofs.Except
import Storybind.Proofs.Text.Order
import Storybind.Proofs.Volume

/-!
The assets of a directory. Every file below it that is named as media gives one asset, in the order of
paths, and every asset whose key stands before it gives one warning; so the warnings and the different
keys are together as many as the assets.
-/

namespace Storybind

/-! ### Files in the order of paths -/

theorem Path.namesLe_iff {a b : List String} : namesLe a b = true ↔ a ≤ b := by
  rw [← not_lt]
  induction a generalizing b with
  | nil => simp [namesLe]
  | cons x a ih =>
    cases b with
    | nil => simp [namesLe]
    | cons y b =>
      rw [namesLe, List.cons_lt_cons_iff]
      by_cases hxy : x = y
      · subst hxy
        simp [ih]
      · have hnames : ¬(y = x ∧ b < a) := fun h => hxy h.1.symm
        rw [if_neg hxy, Text.le_iff, or_iff_left hnames, not_lt]

namespace Volume

variable {v : Volume} {root names : List String} {content : Bytes}

/-- A file of a volume is one of its entries. -/
theorem fileAt_eq_some (h : (v.entries.map Prod.fst).Nodup) :
    v.fileAt names = some content ↔ names ≠ [] ∧ (names, .file content) ∈ v.entries := by
  by_cases hnames : names = []
  · subst hnames
    simp [fileAt]
  · rw [fileAt, find?_of_ne_nil hnames, ← Distinct.lookup_eq_some_iff_mem h]
    cases v.entries.lookup names with
    | none => simp
    | some e => cases e <;> simp [hnames]

/-- The file that an entry is below a directory, if it is one. -/
def below? (root : List String) (x : List String × Entry) : Option (List String × Bytes) :=
  match x.2 with
  | .file b =>
    if root.isPrefixOf x.1 && root.length < x.1.length then some (x.1.drop root.length, b) else none
  | .directory => none

theorem below?_eq_some {x : List String × Entry} : below? root x = some (names, content) ↔
    names ≠ [] ∧ x = (root ++ names, .file content) := by
  obtain ⟨full, e⟩ := x
  cases e with
  | directory => simp [below?]
  | file b =>
    unfold below?
    constructor
    · intro h
      simp only at h
      split at h
      · next hbelow =>
        simp only [Bool.and_eq_true, List.isPrefixOf_iff_prefix, decide_eq_true_eq] at hbelow
        obtain ⟨⟨rest, rfl⟩, hlength⟩ := hbelow
        obtain ⟨rfl, rfl⟩ := Prod.mk.inj (Option.some.inj h)
        rw [List.drop_left]
        refine ⟨?_, rfl⟩
        rintro rfl
        simp at hlength
      · cases h
    · rintro ⟨hnames, heq⟩
      obtain ⟨rfl, hb⟩ := Prod.mk.inj heq
      obtain rfl := Entry.file.inj hb
      -- the root itself is no file below it
      have hlength : root.length < (root ++ names).length := by
        have hpos := List.length_pos_of_ne_nil hnames
        rw [List.length_append]
        omega
      have hbelow : root.isPrefixOf (root ++ names) = true :=
        List.isPrefixOf_iff_prefix.mpr (List.prefix_append root names)
      simp only [hbelow, hlength, decide_true, Bool.and_self, if_true, List.drop_left]

theorem filesBelow_eq (v : Volume) (root : List String) : v.filesBelow root =
    (v.entries.filterMap (below? root)).mergeSort fun a b => Path.namesLe a.1 b.1 := rfl

theorem mem_filesBelow : (names, content) ∈ v.filesBelow root ↔
    names ≠ [] ∧ (root ++ names, .file content) ∈ v.entries := by
  rw [filesBelow_eq, List.mem_mergeSort, List.mem_filterMap]
  constructor
  · rintro ⟨x, hx, hbelow⟩
    obtain ⟨hnames, rfl⟩ := below?_eq_some.mp hbelow
    exact ⟨hnames, hx⟩
  · rintro ⟨hnames, hentry⟩
    exact ⟨_, hentry, below?_eq_some.mpr ⟨hnames, rfl⟩⟩

/-- The files below a directory stand in ascending order, each of them once. -/
theorem pairwise_filesBelow (h : (v.entries.map Prod.fst).Nodup) :
    (v.filesBelow root).Pairwise fun x y => x.1 < y.1 := by
  -- ascending as they were sorted, and strictly so as no two entries have the same names
  have hsorted : (v.filesBelow root).Pairwise fun x y => x.1 ≤ y.1 := by
    rw [filesBelow_eq]
    refine (List.pairwise_mergeSort ?_ ?_ _).imp fun {x y} hle => Path.namesLe_iff.mp hle
    · intro x y z
      simp only [Path.namesLe_iff]
      exact le_trans
    · intro x y
      simp only [Bool.or_eq_true, Path.namesLe_iff]
      exact le_total x.1 y.1
  have hnodup : (v.filesBelow root).Pairwise fun x y => x.1 ≠ y.1 := by
    rw [filesBelow_eq]
    refine List.Pairwise.perm ?_ (List.mergeSort_perm _ _).symm fun hne => hne.symm
    rw [List.pairwise_filterMap]
    refine (List.pairwise_map.mp h).imp ?_
    intro x y hne file hx file' hy hnames
    apply hne
    rw [(below?_eq_some.mp hx).2, (below?_eq_some.mp hy).2, hnames]
  exact hsorted.imp₂ (fun _ _ hle hne => lt_of_le_of_ne hle hne) hnodup

end Volume

namespace Asset

variable {assets : List Asset} {a x earlier : Asset} {c : Collected} {key message : String} {limit : Int}

/-! ### Shared keys -/

/-- The warning about an asset whose key an earlier one has. -/
def sharedWarning (earlier a : Asset) : String :=
  "Asset key '" ++ a.key ++ "' is shared by " ++ earlier.name ++ " and " ++ a.name ++
    "; the later file wins"

/-- Whether an asset comes after another one of its key, with none of that key between them. -/
def Follows (assets : List Asset) (earlier a : Asset) : Prop :=
  ∃ before between after, assets = before ++ earlier :: (between ++ a :: after) ∧
    earlier.key = a.key ∧ ∀ x ∈ between, x.key ≠ a.key

theorem find?_eq_some : find? key assets = some a ↔ a.key = key ∧
    ∃ before after, assets = before ++ a :: after ∧ ∀ x ∈ after, x.key ≠ key := by
  rw [find?, List.find?_eq_some_iff_append, decide_eq_true_iff]
  refine and_congr_right fun _ => ?_
  constructor
  · rintro ⟨later, rest, hreverse, hlater⟩
    refine ⟨rest.reverse, later.reverse, ?_, fun x hx => ?_⟩
    · rw [← List.reverse_reverse assets, hreverse]
      simp
    · simpa using hlater x (List.mem_reverse.mp hx)
  · rintro ⟨before, after, rfl, hafter⟩
    refine ⟨after.reverse, before.reverse, by simp, fun x hx => ?_⟩
    simpa using hafter x (List.mem_reverse.mp hx)

theorem find?_eq_none : find? key assets = none ↔ key ∉ assets.map (·.key) := by
  simp [find?]

/-- An asset that is added comes after the last one of its key. -/
theorem follows_concat : Follows (assets ++ [a]) earlier x ↔
    Follows assets earlier x ∨ x = a ∧ find? a.key assets = some earlier := by
  constructor
  · rintro ⟨before, between, after, heq, hkey, hbetween⟩
    -- either it is the added one that comes after, or all is as it was
    induction after using List.reverseRecOn with
    | nil =>
      have hlast : assets ++ [a] = (before ++ earlier :: between) ++ [x] := by
        rw [heq, List.append_assoc, List.cons_append]
      obtain ⟨rfl, ha⟩ := List.append_inj' hlast rfl
      obtain rfl : a = x := List.singleton_inj.mp ha
      exact Or.inr ⟨rfl, find?_eq_some.mpr ⟨hkey, before, between, rfl, hbetween⟩⟩
    | append_singleton after z _ =>
      have hlast : assets ++ [a] = (before ++ earlier :: (between ++ x :: after)) ++ [z] := by
        rw [heq]
        simp
      obtain ⟨rfl, -⟩ := List.append_inj' hlast rfl
      exact Or.inl ⟨before, between, after, rfl, hkey, hbetween⟩
  · rintro (⟨before, between, after, rfl, hkey, hbetween⟩ | ⟨rfl, hfind⟩)
    · exact ⟨before, between, after ++ [a], by simp, hkey, hbetween⟩
    · obtain ⟨hkey, before, between, rfl, hbetween⟩ := find?_eq_some.mp hfind
      exact ⟨before, between, [], by simp, hkey, hbetween⟩

/-- Of two assets of one key the later one comes after an asset of that key. -/
theorem exists_follows (first middle rest : List Asset) (hkey : x.key = a.key) :
    ∃ earlier, Follows (first ++ x :: (middle ++ a :: rest)) earlier a := by
  have hthere : find? a.key (first ++ x :: middle) ≠ none := by
    rw [Ne, find?_eq_none, not_not]
    exact List.mem_map.mpr ⟨x, by simp, hkey⟩
  obtain ⟨earlier, hfind⟩ := Option.ne_none_iff_exists'.mp hthere
  obtain ⟨hearlier, before, between, hassets, hbetween⟩ := find?_eq_some.mp hfind
  refine ⟨earlier, before, between, rest, ?_, hearlier, hbetween⟩
  calc first ++ x :: (middle ++ a :: rest)
      = (first ++ x :: middle) ++ a :: rest := by simp
    _ = (before ++ earlier :: between) ++ a :: rest := by rw [hassets]
    _ = before ++ earlier :: (between ++ a :: rest) := by simp

/-! ### Taking in files -/

/-- What the warnings tell: the assets whose key stands before them, one warning for each. -/
structure WarnsOfShared (c : Collected) : Prop where
  told : ∀ message, message ∈ c.warnings ↔
    ∃ earlier a, Follows c.assets earlier a ∧ message = sharedWarning earlier a
  counted : c.warnings.length + (c.assets.map (·.key)).toFinset.card = c.assets.length

theorem warnsOfShared_empty : WarnsOfShared .empty where
  told := by
    intro message
    refine iff_of_false List.not_mem_nil ?_
    rintro ⟨earlier, a, ⟨before, between, after, heq, -⟩, -⟩
    cases before <;> cases heq
  counted := rfl

theorem toFinset_concat : ((assets ++ [a]).map (·.key)).toFinset =
    insert a.key (assets.map (·.key)).toFinset := by
  ext key
  simp

theorem WarnsOfShared.add (h : WarnsOfShared c) (hnew : find? a.key c.assets = none) :
    WarnsOfShared (c.add a) where
  told := by
    intro message
    have hassets : (c.add a).assets = c.assets ++ [a] := rfl
    have hwarnings : (c.add a).warnings = c.warnings := rfl
    simp only [hassets, hwarnings, follows_concat, h.told, hnew, reduceCtorEq, and_false, or_false]
  counted := by
    -- one asset and one key more
    have hkey : a.key ∉ (c.assets.map (·.key)).toFinset := by
      rw [List.mem_toFinset]
      exact find?_eq_none.mp hnew
    change c.warnings.length + ((c.assets ++ [a]).map (·.key)).toFinset.card = (c.assets ++ [a]).length
    rw [toFinset_concat, Finset.card_insert_of_notMem hkey, List.length_append, ← h.counted]
    rfl

theorem WarnsOfShared.warn (h : WarnsOfShared c) (hshared : find? a.key c.assets = some earlier) :
    WarnsOfShared ((c.warn (sharedWarning earlier a)).add a) where
  told := by
    intro message
    change message ∈ c.warnings ++ [sharedWarning earlier a] ↔
      ∃ e x, Follows (c.assets ++ [a]) e x ∧ message = sharedWarning e x
    rw [List.mem_append, List.mem_singleton, h.told]
    constructor
    · rintro (⟨e, x, hfollows, rfl⟩ | rfl)
      · exact ⟨e, x, follows_concat.mpr (Or.inl hfollows), rfl⟩
      · exact ⟨earlier, a, follows_concat.mpr (Or.inr ⟨rfl, hshared⟩), rfl⟩
    · rintro ⟨e, x, hfollows, rfl⟩
      rcases follows_concat.mp hfollows with hfollows | ⟨rfl, hfind⟩
      · exact Or.inl ⟨e, x, hfollows, rfl⟩
      · obtain rfl : earlier = e := Option.some.inj (hshared.symm.trans hfind)
        exact Or.inr rfl
  counted := by
    -- one asset and one warning more, while the keys stay the same
    have hkey : a.key ∈ (c.assets.map (·.key)).toFinset := by
      by_contra hnone
      rw [List.mem_toFinset, ← find?_eq_none, hshared] at hnone
      cases hnone
    change (c.warnings ++ [sharedWarning earlier a]).length +
      ((c.assets ++ [a]).map (·.key)).toFinset.card = (c.assets ++ [a]).length
    rw [toFinset_concat, Finset.insert_eq_of_mem hkey, List.length_append, List.length_append,
      ← h.counted]
    simp only [List.length_singleton]
    omega

/-- A file is passed over, or its asset is added, with a warning if its key is there already. -/
theorem takeFile_cases (limit : Int) (c : Collected) (file : List String × Bytes) :
    ofFile? limit file.1 file.2 = none ∧ takeFile limit c file = c ∨
    ∃ a, ofFile? limit file.1 file.2 = some a ∧
      (find? a.key c.assets = none ∧ takeFile limit c file = c.add a ∨
        ∃ earlier, find? a.key c.assets = some earlier ∧
          takeFile limit c file = (c.warn (sharedWarning earlier a)).add a) := by
  unfold takeFile
  cases hfile : ofFile? limit file.1 file.2 with
  | none => exact Or.inl ⟨rfl, rfl⟩
  | some a =>
    refine Or.inr ⟨a, rfl, ?_⟩
    cases hfind : find? a.key c.assets with
    | none => exact Or.inl ⟨rfl, by simp only [hfind]⟩
    | some earlier => exact Or.inr ⟨earlier, rfl, by simp only [hfind]; rfl⟩

theorem WarnsOfShared.takeFile (h : WarnsOfShared c) (file : List String × Bytes) :
    WarnsOfShared (Asset.takeFile limit c file) := by
  rcases takeFile_cases limit c file with ⟨-, htake⟩ | ⟨a, -, ⟨hnew, htake⟩ | ⟨earlier, hshared, htake⟩⟩
  · rwa [htake]
  · rw [htake]
    exact h.add hnew
  · rw [htake]
    exact h.warn hshared

theorem assets_takeFile (limit : Int) (c : Collected) (file : List String × Bytes) :
    (takeFile limit c file).assets = c.assets ++ (ofFile? limit file.1 file.2).toList := by
  rcases takeFile_cases limit c file with ⟨hfile, htake⟩ | ⟨a, hfile, ⟨-, htake⟩ | ⟨earlier, -, htake⟩⟩
  · rw [htake, hfile, Option.toList_none, List.append_nil]
  · rw [htake, hfile]
    rfl
  · rw [htake, hfile]
    rfl

/-- Files taken in one after the other give their assets in that order, and the warnings about those
that share a key. -/
theorem foldl_takeFile (limit : Int) (files : List (List String × Bytes)) :
    (files.foldl (takeFile limit) .empty).assets = files.filterMap (fun f => ofFile? limit f.1 f.2) ∧
      WarnsOfShared (files.foldl (takeFile limit) .empty) := by
  -- from the end, as the file that is taken in last meets the assets of all others
  induction files using List.reverseRecOn with
  | nil => exact ⟨rfl, warnsOfShared_empty⟩
  | append_singleton files file ih =>
    obtain ⟨hassets, hwarns⟩ := ih
    rw [List.foldl_append, List.foldl_cons, List.foldl_nil]
    refine ⟨?_, hwarns.takeFile file⟩
    have hone : [file].filterMap (fun f => ofFile? limit f.1 f.2) =
        (ofFile? limit file.1 file.2).toList := by
      cases hfile : ofFile? limit file.1 file.2 <;> simp [hfile]
    rw [assets_takeFile, hassets, List.filterMap_append, hone]

/-! ### The assets of a directory -/

/-- What is collected from the directory with given names: its files that are named as media, each of
them once and in ascending order, are told of one by one, and so are the assets that share a key. -/
structure Collects (v : Volume) (root : List String) (asked : Int) (c : Collected) : Prop where
  described : ∃ files : List (List String × Bytes),
    (∀ names content, (names, content) ∈ files ↔ v.fileAt (root ++ names) = some content ∧
      ∃ kind media, NamesMedia (names.getLast?.getD "") kind media) ∧
    files.Pairwise (fun x y => x.1 < y.1) ∧ List.Forall₂ (Describes asked) files c.assets
  shared : WarnsOfShared c

/-- The files that give something correspond one by one to what they give. -/
theorem forall₂_filterMap {α β : Type} {f : α → Option β} {R : α → β → Prop} {files : List α}
    (h : ∀ x ∈ files, ∀ y, f x = some y → R x y) :
    List.Forall₂ R (files.filter fun x => (f x).isSome) (files.filterMap f) := by
  induction files with
  | nil => exact .nil
  | cons x files ih =>
    have hrest := ih fun z hz => h z (List.mem_cons_of_mem x hz)
    cases hx : f x with
    | none => simpa [hx] using hrest
    | some y =>
      have hxy : R x y := h x List.mem_cons_self y hx
      simpa [hx] using And.intro hxy hrest

theorem collects_foldl {v : Volume} {root : List String} (hentries : (v.entries.map Prod.fst).Nodup)
    (asked : Int) :
    Collects v root asked ((v.filesBelow root).foldl (takeFile (embedLimit asked)) .empty) := by
  obtain ⟨hassets, hshared⟩ := foldl_takeFile (embedLimit asked) (v.filesBelow root)
  refine ⟨⟨(v.filesBelow root).filter fun f => (ofFile? (embedLimit asked) f.1 f.2).isSome,
    fun names content => ?_, ?_, ?_⟩, hshared⟩
  · rw [List.mem_filter, isSome_ofFile?, Volume.mem_filesBelow, Volume.fileAt_eq_some hentries]
    -- the directory itself is no file, and its name would not be one of media
    constructor
    · rintro ⟨⟨hnames, hentry⟩, hmedia⟩
      exact ⟨⟨List.append_ne_nil_of_right_ne_nil root hnames, hentry⟩, hmedia⟩
    · rintro ⟨⟨-, hentry⟩, kind, media, hmedia⟩
      refine ⟨⟨?_, hentry⟩, kind, media, hmedia⟩
      rintro rfl
      obtain ⟨stem, spelled, extension, hstem, hname, -⟩ := hmedia
      exact hstem (List.append_eq_nil_iff.mp hname.symm).1
  · exact (Volume.pairwise_filesBelow hentries).filter _
  · rw [hassets]
    refine forall₂_filterMap fun file hfile a ha => ?_
    exact describes_of_ofFile? (Volume.mem_filesBelow.mp hfile).1 ha

/-- Collecting the assets of a directory is never refused. There is one asset for each file below it
that is named as media, in the order of paths; it is embedded exactly if it is an image within the
limit, its file can be got back from it, and it passes its own check. Every asset whose key an earlier
one has is warned of, and the warnings and the different keys are together as many as the assets. -/
theorem fromDirectory_collects (w : Workspace) (asked : Int) (directory : String)
    (hentries : (w.volume.entries.map Prod.fst).Nodup) (hgiven : directory ≠ "")
    (hdirectory : w.isDirectory (Path.ofString directory) = .ok true) :
    ∃ root c, w.volume.locate w.cwd (Path.ofString directory) = .ok root ∧
      fromDirectory w (embedLimit asked) directory = .ok c ∧ Collects w.volume root asked c := by
  obtain ⟨root, hlocate, hthere⟩ : ∃ root, w.volume.locate w.cwd (Path.ofString directory) = .ok root ∧
      w.existsAt (Path.ofString directory) = .ok true := by
    -- what is a directory was located, and is there
    have hleads := hdirectory
    unfold Workspace.isDirectory Volume.isDirectory Volume.leadsTo at hleads
    unfold Workspace.existsAt Volume.existsAt Volume.leadsTo
    split at hleads
    · next names e hentry =>
      obtain ⟨root, hlocate, -⟩ := Except.bind_eq_ok.mp hentry
      exact ⟨root, hlocate, rfl⟩
    · cases hleads
    · cases hleads
  have hgiven' : directory.isEmpty = false := by simpa using hgiven
  refine ⟨root, _, hlocate, ?_, collects_foldl hentries asked⟩
  unfold fromDirectory
  simp only [hgiven', hthere, hdirectory, hlocate]
  rfl

/-- A directory with two images of one key, a sound further below and a file that is no media. -/
def gallery : Workspace :=
  ⟨⟨[(["art"], .directory), (["art", "tea.png"], .file [137, 80]), (["art", "Tea.PNG"], .file [255]),
    (["art", "notes.txt"], .file [104, 105]), (["art", "sound"], .directory),
    (["art", "sound", "rain.mp3"], .file [1, 2, 3])]⟩, ⟨"/", []⟩, ⟨"/", []⟩, ⟨"/", []⟩⟩

theorem fromDirectory_collects_gallery :
    (gallery.volume.entries.map Prod.fst).Nodup ∧ "art" ≠ "" ∧
      gallery.isDirectory (Path.ofString "art") = .ok true ∧
      ∃ root c, gallery.volume.locate gallery.cwd (Path.ofString "art") = .ok root ∧
        fromDirectory gallery (embedLimit 1) "art" = .ok c ∧ Collects gallery.volume root 1 c := by
  have hentries : (gallery.volume.entries.map Prod.fst).Nodup := by decide
  have hgiven : "art" ≠ "" := by decide
  have hdirectory : gallery.isDirectory (Path.ofString "art") = .ok true := by decide +kernel
  exact ⟨hentries, hgiven, hdirectory, fromDirectory_collects gallery 1 "art" hentries hgiven hdirectory⟩

end Asset
end Storybind
