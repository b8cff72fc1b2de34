import Mathlib.Tactic
import Storybind.Asset.Manifest
import Storybind.Proofs.Asset.Collection
import Storybind.Proofs.Compile.Saving
import Storybind.Proofs.Entries

/-!
The assets of a compile. A page has one asset under each key, the last one. Two files of a directory
that share a key are told of; an asset that a story lists takes the place of another one in silence.
-/

namespace Storybind

/-! ### Assets by key -/

theorem Entries.length_set (name : String) (v : Value) (es : Entries) :
    (set name v es).length = if (get? name es).isSome then es.length else es.length + 1 := by
  unfold set get?
  induction es with
  | nil => rfl
  | cons e rest ih =>
    obtain ⟨k, x⟩ := e
    rw [put, find?]
    split
    · simp
    · rw [List.length_cons, List.length_cons, ih]
      split <;> rfl

namespace Asset

variable {assets : List Asset} {a x earlier : Asset} {c : Collected} {key message : String}

theorem pageMap_concat : pageMap (assets ++ [a]) = Entries.set a.key (pageEntry a) (pageMap assets) := by
  rw [pageMap, List.foldl_append]
  rfl

theorem find?_concat : find? key (assets ++ [a]) = if a.key = key then some a else find? key assets := by
  unfold find?
  rw [List.reverse_append, List.reverse_singleton, List.singleton_append, List.find?_cons]
  by_cases h : a.key = key <;> simp [h]

/-- A page has under a key the last asset of that key. -/
theorem get?_pageMap (assets : List Asset) (key : String) :
    Entries.get? key (pageMap assets) = (find? key assets).map pageEntry := by
  -- from the end, as a later asset takes the place of those before it
  induction assets using List.reverseRecOn with
  | nil => rfl
  | append_singleton assets a ih =>
    rw [pageMap_concat, Entries.get?_set, find?_concat, ih]
    split <;> rfl

/-- A page has as many assets as there are different keys. -/
theorem length_pageMap (assets : List Asset) :
    (pageMap assets).length = (assets.map (·.key)).toFinset.card := by
  induction assets using List.reverseRecOn with
  | nil => rfl
  | append_singleton assets a ih =>
    rw [pageMap_concat, Entries.length_set, get?_pageMap, Option.isSome_map, toFinset_concat, ih]
    by_cases hkey : a.key ∈ assets.map (·.key)
    · have hthere : (find? a.key assets).isSome = true := by
        rwa [Option.isSome_iff_ne_none, Ne, find?_eq_none, not_not]
      rw [if_pos hthere, Finset.insert_eq_of_mem (List.mem_toFinset.mpr hkey)]
    · have hnew : ¬(find? a.key assets).isSome = true := by
        rwa [Option.isSome_iff_ne_none, Ne, find?_eq_none, not_not]
      rw [if_neg hnew, Finset.card_insert_of_notMem (mt List.mem_toFinset.mp hkey)]

/-! ### Keys that are shared -/

/-- Whether every key that two assets share is named in a warning. -/
def NamesShared (assets : List Asset) (warnings : List String) : Prop :=
  (assets.map (·.key)).Pairwise fun k l =>
    k = l → ∃ message ∈ warnings, l.toList <:+: message.toList

theorem key_infix_sharedWarning (earlier a : Asset) :
    a.key.toList <:+: (sharedWarning earlier a).toList := by
  refine ⟨"Asset key '".toList, ("' is shared by " ++ earlier.name ++ " and " ++ a.name ++
    "; the later file wins").toList, ?_⟩
  simp only [sharedWarning, String.toList_append, List.append_assoc]

theorem namesShared_of_told {warnings : List String}
    (h : ∀ earlier a, Follows assets earlier a → sharedWarning earlier a ∈ warnings) :
    NamesShared assets warnings := by
  unfold NamesShared
  rw [List.pairwise_map, List.pairwise_iff_getElem]
  intro i j hi hj hij hkey
  -- cut out both assets: the second follows some asset of its key
  have hassets : assets = assets.take i ++ assets[i] ::
      ((assets.drop (i + 1)).take (j - (i + 1)) ++ assets[j] :: assets.drop (j + 1)) := by
    have hlater : assets.drop (i + 1) =
        (assets.drop (i + 1)).take (j - (i + 1)) ++ assets[j] :: assets.drop (j + 1) := by
      have hcut := (List.take_append_drop (j - (i + 1)) (assets.drop (i + 1))).symm
      rw [List.drop_drop, show i + 1 + (j - (i + 1)) = j by omega,
        List.drop_eq_getElem_cons hj] at hcut
      exact hcut
    rw [← hlater, List.getElem_cons_drop, List.take_append_drop]
  obtain ⟨earlier, hfollows⟩ := exists_follows (assets.take i)
    ((assets.drop (i + 1)).take (j - (i + 1))) (assets.drop (j + 1)) hkey
  rw [← hassets] at hfollows
  exact ⟨_, h earlier _ hfollows, key_infix_sharedWarning earlier _⟩

/-- What is collected from a directory tells of shared keys and of nothing else, unless there is no
directory and nothing is collected. -/
theorem fromDirectory_tells {w : Workspace} {limit : Int} {directory : String}
    (h : fromDirectory w limit directory = .ok c) : WarnsOfShared c ∨ c.assets = [] ∧
      (c.warnings = ["Assets directory not found: " ++ directory] ∨
        c.warnings = ["Asset path is not a directory: " ++ directory]) := by
  unfold fromDirectory at h
  split at h
  · cases h
    exact Or.inl warnsOfShared_empty
  · obtain ⟨there, -, h⟩ := Except.bind_eq_ok.mp h
    split at h
    · cases h
      exact Or.inr ⟨rfl, Or.inl rfl⟩
    · obtain ⟨isDirectory, -, h⟩ := Except.bind_eq_ok.mp h
      split at h
      · cases h
        exact Or.inr ⟨rfl, Or.inr rfl⟩
      · split at h
        · cases h
          exact Or.inl warnsOfShared_empty
        · cases h
          exact Or.inl (foldl_takeFile limit _).2

/-! ### Assets that a story lists -/

/-- What is told while the entries of a story are taken in: that one is refused, or all of them. -/
def RefusesListed (message : String) : Prop := "Script ".toList <+: message.toList

/-- An entry gives an asset, or a warning that it is refused. -/
theorem takeEntry_cases (c : Collected) (entry : Value × Nat) :
    (∃ a, takeEntry c entry = c.add a) ∨
      ∃ message, RefusesListed message ∧ takeEntry c entry = c.warn message := by
  have hrefuses {title rest : String} (h : "Script ".toList <+: title.toList) :
      RefusesListed (title ++ rest) := by
    rw [RefusesListed, String.toList_append]
    exact h.trans (List.prefix_append _ _)
  unfold takeEntry
  split
  · split
    · exact Or.inl ⟨_, rfl⟩
    · refine Or.inr ⟨_, ?_, rfl⟩
      simp only [String.append_assoc]
      exact hrefuses (by decide)
  · refine Or.inr ⟨_, ?_, rfl⟩
    simp only [String.append_assoc]
    exact hrefuses (by decide)

/-- What is taken in of a list of entries: every entry is accounted for, and nothing is told but
refusals. -/
theorem foldl_takeEntry (entries : List (Value × Nat)) :
    (entries.foldl takeEntry .empty).assets.length + (entries.foldl takeEntry .empty).warnings.length =
        entries.length ∧
      ∀ message ∈ (entries.foldl takeEntry .empty).warnings, RefusesListed message := by
  induction entries using List.reverseRecOn with
  | nil => exact ⟨rfl, fun _ hmem => absurd hmem List.not_mem_nil⟩
  | append_singleton entries entry ih =>
    obtain ⟨hcount, hrefuses⟩ := ih
    rw [List.foldl_append, List.foldl_cons, List.foldl_nil, List.length_append, ← hcount]
    rcases takeEntry_cases (entries.foldl takeEntry .empty) entry with ⟨a, htake⟩ | ⟨m, hm, htake⟩
    · rw [htake]
      refine ⟨?_, hrefuses⟩
      simp only [Collected.add, List.length_append, List.length_singleton]
      omega
    · rw [htake]
      refine ⟨?_, fun message hmem => ?_⟩
      · simp only [Collected.warn, List.length_append, List.length_singleton]
        omega
      · rcases List.mem_append.mp hmem with hmem | hmem
        · exact hrefuses message hmem
        · rwa [List.mem_singleton.mp hmem]

theorem fromScript_tells (entries : Value) :
    ∀ message ∈ (fromScript entries).warnings, RefusesListed message := by
  intro message hmem
  unfold fromScript at hmem
  split at hmem
  · exact absurd hmem List.not_mem_nil
  · split at hmem
    · exact (foldl_takeEntry _).2 message hmem
    · rw [List.mem_singleton.mp hmem]
      exact ⟨"'assets' must be a list; ignoring it".toList, by decide⟩

/-- No refusal of an entry tells of a shared key. -/
theorem sharedWarning_ne_of_refuses (h : RefusesListed message) (earlier a : Asset) :
    message ≠ sharedWarning earlier a := by
  rintro rfl
  obtain ⟨rest, hrest⟩ := h
  simp only [sharedWarning, String.toList_append, List.append_assoc] at hrest
  exact absurd (List.cons.inj hrest).1 (by decide)

end Asset

/-! ### A compile -/

namespace Compiler

variable {c : Compiler} {r : Request} {w : Workspace} {world : World} {result : Result} {stats : Stats}

/-- The assets of the directory that is asked for. -/
def found (c : Compiler) (w : Workspace) (r : Request) : Except FileError Collected :=
  match r.assets with
  | some d => Asset.fromDirectory w (Asset.embedLimit c.embedLimit) d
  | none => pure .empty

/-- What a compile tells of its assets, those found in the directory before those that the story
lists. -/
structure TellsOfAssets (result : Result) (stats : Stats) (assets : List Asset)
    (found listed : Collected) : Prop where
  joined : assets = found.assets ++ listed.assets
  counted : stats.assets = assets.length
  /-- The page keeps one asset under each key, the last one. -/
  kept : ∀ key, Entries.get? key (Asset.pageMap assets) = (Asset.find? key assets).map Asset.pageEntry
  left : (Asset.pageMap assets).length = (assets.map (·.key)).toFinset.card
  told : ∃ before after,
    result.warnings = before ++ (found.warnings ++ listed.warnings) ++ after
  named : Asset.NamesShared found.assets result.warnings
  /-- What is told of the directory tells of shared keys, or that it is not there. -/
  directory : Asset.WarnsOfShared found ∨ found.assets = [] ∧ found.warnings.length = 1
  /-- Nothing that is told of the list tells of a shared key. -/
  silent : ∀ message ∈ listed.warnings, ∀ earlier a, message ≠ Asset.sharedWarning earlier a

theorem assetsOf_eq (story : Story) : c.assetsOf w r story = (c.found w r).bind fun directory =>
    .ok ⟨directory.assets ++ (Asset.fromScript (story.part "assets")).assets,
      directory.warnings ++ (Asset.fromScript (story.part "assets")).warnings⟩ := by
  unfold assetsOf found
  cases r.assets with
  | none => rfl
  | some directory => rfl

theorem supplies_assets {tale : Tale} {s : Supplies} (h : c.supplies w r tale = .ok s) :
    ∃ directory, c.found w r = .ok directory ∧
      s.assets = directory.assets ++ (Asset.fromScript (tale.story.part "assets")).assets ∧
      ∃ after, s.laterWarnings = directory.warnings ++
        (Asset.fromScript (tale.story.part "assets")).warnings ++ after := by
  obtain ⟨⟨libraries, libraryWarnings⟩, -, h⟩ := Except.bind_eq_ok.mp h
  obtain ⟨assets, hassets, h⟩ := Except.bind_eq_ok.mp h
  obtain ⟨⟨mounts, parts, componentWarnings⟩, -, h⟩ := Except.bind_eq_ok.mp h
  have hboth : c.assetsOf w r tale.story = .ok assets := Except.mapError_eq_ok.mp hassets
  rw [assetsOf_eq] at hboth
  obtain ⟨directory, hfound, hboth⟩ := Except.bind_eq_ok.mp hboth
  cases hboth
  cases h
  exact ⟨directory, hfound, rfl, componentWarnings, rfl⟩

/-- A compile that succeeds has a draft, whose assets are counted and whose warnings are told. -/
theorem draft_of_compile (hresult : (c.compile r world).1 = .ok result)
    (hok : result.outcome = .ok stats) :
    ∃ d, c.draft world.workspace r = .ok d ∧ stats.assets = d.supplies.assets.length ∧
      ∃ before after, result.warnings = before ++ d.supplies.laterWarnings ++ after := by
  unfold compile at hresult
  split at hresult
  · cases hresult
    cases hok
  · cases hresult
  · next page fetch hcompose =>
    -- a success is that of the page, whether or not the page had to be saved
    have hpage : page.stats = stats ∧ result.warnings = page.warnings := by
      simp only at hresult
      split at hresult
      · cases hresult
        exact ⟨Except.ok.inj hok, rfl⟩
      · split at hresult
        · cases hresult
          cases hok
        · cases hresult
    unfold compose at hcompose
    simp only at hcompose
    split at hcompose
    · cases hcompose
    · next d hdraft =>
      split at hcompose
      · cases hcompose
      · next bundle _ _ =>
        obtain ⟨hfinish, -⟩ := Prod.mk.inj hcompose
        rw [Except.mapError_eq_ok] at hfinish
        -- the page tells of what went into it, part by part
        unfold finish at hfinish
        obtain ⟨style, -, hfinish⟩ := Except.bind_eq_ok.mp hfinish
        obtain ⟨script, -, hfinish⟩ := Except.bind_eq_ok.mp hfinish
        obtain ⟨document, -, hfinish⟩ := Except.bind_eq_ok.mp hfinish
        cases hfinish
        obtain ⟨rfl, hwarnings⟩ := hpage
        refine ⟨d, hdraft, rfl, d.outfit.warnings ++ d.supplies.warnings,
          bundle.warnings ++ style.2 ++ script.2 ++ document.warnings, ?_⟩
        simpa only [List.append_assoc] using hwarnings

theorem draft_supplies {d : Draft} (h : c.draft w r = .ok d) :
    c.tell w r = .ok d.tale ∧ c.supplies w r d.tale = .ok d.supplies := by
  obtain ⟨tale, htell, h⟩ := Except.bind_eq_ok.mp h
  obtain ⟨outfit, -, h⟩ := Except.bind_eq_ok.mp h
  obtain ⟨supplies, hsupplies, h⟩ := Except.bind_eq_ok.mp h
  cases h
  exact ⟨htell, Except.mapError_eq_ok.mp hsupplies⟩

/-- A compile that succeeds names every key that two files of the directory of assets share. It counts
the assets that the story lists, too, but of keys that they share, with one another or with files, it
tells nothing. -/
theorem tells_of_assets (hresult : (c.compile r world).1 = .ok result)
    (hok : result.outcome = .ok stats) :
    ∃ d directory, c.draft world.workspace r = .ok d ∧ c.found world.workspace r = .ok directory ∧
      TellsOfAssets result stats d.supplies.assets directory
        (Asset.fromScript (d.tale.story.part "assets")) := by
  obtain ⟨d, hdraft, hcounted, before, after, hwarnings⟩ := draft_of_compile hresult hok
  obtain ⟨-, hsupplies⟩ := draft_supplies hdraft
  obtain ⟨directory, hfound, hassets, rest, hlater⟩ := supplies_assets hsupplies
  have hdirectory : Asset.WarnsOfShared directory ∨
      directory.assets = [] ∧ directory.warnings.length = 1 := by
    unfold found at hfound
    split at hfound
    · refine (Asset.fromDirectory_tells hfound).imp id ?_
      rintro ⟨hempty, hnotice | hnotice⟩
      · exact ⟨hempty, by rw [hnotice]; rfl⟩
      · exact ⟨hempty, by rw [hnotice]; rfl⟩
    · cases hfound
      exact Or.inl Asset.warnsOfShared_empty
  have hmem : ∀ message ∈ directory.warnings, message ∈ result.warnings := by
    intro message hmem
    rw [hwarnings, hlater]
    simp [hmem]
  refine ⟨d, directory, hdraft, hfound, hassets, hcounted, Asset.get?_pageMap _,
    Asset.length_pageMap _, ⟨before, rest ++ after, ?_⟩, ?_, hdirectory,
    fun message hmessage => Asset.sharedWarning_ne_of_refuses (Asset.fromScript_tells _ message hmessage)⟩
  · rw [hwarnings, hlater]
    simp only [List.append_assoc]
  · refine Asset.namesShared_of_told fun earlier a hfollows => ?_
    -- without a directory there are no assets that could share a key
    rcases hdirectory with hwarns | ⟨hempty, -⟩
    · exact hmem _ ((hwarns.told _).mpr ⟨earlier, a, hfollows, rfl⟩)
    · obtain ⟨first, middle, last, hassets, -⟩ := hfollows
      rw [hempty] at hassets
      cases first <;> cases hassets

/-- A room with a whole player. -/
def study : World :=
  let directories := [["player", "runtime"], ["player", "utils"]]
  let blank := [["player", "assets", "theme.css"], ["player", "runtime", "asset-manager.js"],
    ["player", "runtime", "component-manager.js"], ["player", "runtime", "game-initialization.js"],
    ["player", "runtime", "save-manager.js"], ["player", "runtime", "scene-manager.js"],
    ["player", "utils", "debug-helpers.js"], ["player", "utils", "polyfills.js"]]
  { room with workspace := { room.workspace with volume := ⟨room.workspace.volume.entries ++
    directories.map (fun names => (names, .directory)) ++ blank.map fun names => (names, .file [])⟩ } }

/-- The order for a story that lists two assets of one key. -/
def paired : Request :=
  { order with
    input := "scenes: \x7b\x7d\nassets:\n- \x7bkey: bg, url: a.png\x7d\n- \x7bkey: bg, url: b.png\x7d\n" }

/-- What a compile tells where it succeeds, with the number of its assets. -/
def toldOf (answer : Except Breakdown Result) : Option (List String × Nat) :=
  answer.toOption.bind fun result => result.outcome.toOption.map fun stats =>
    (result.warnings, stats.assets)

theorem exists_of_toldOf {answer : Except Breakdown Result} {told : List String × Nat}
    (h : toldOf answer = some told) : ∃ result stats, answer = .ok result ∧
      result.outcome = .ok stats ∧ result.warnings = told.1 ∧ stats.assets = told.2 := by
  unfold toldOf at h
  cases answer with
  | error b => cases h
  | ok result =>
    cases houtcome : result.outcome with
    | error f => simp [Except.toOption, houtcome] at h
    | ok stats =>
      simp only [Except.toOption, Option.bind_some, houtcome, Option.map_some, Option.some.injEq] at h
      exact ⟨result, stats, rfl, houtcome, by rw [← h], by rw [← h]⟩

theorem toldOf_paired :
    toldOf ((booth Output.noRefusals).compile paired study).1 = some ([], 2) := by
  decide +kernel

theorem tells_of_assets_paired : ∃ result stats,
    ((booth Output.noRefusals).compile paired study).1 = .ok result ∧ result.outcome = .ok stats ∧
    ∃ d directory, (booth Output.noRefusals).draft study.workspace paired = .ok d ∧
      (booth Output.noRefusals).found study.workspace paired = .ok directory ∧
      TellsOfAssets result stats d.supplies.assets directory
        (Asset.fromScript (d.tale.story.part "assets")) := by
  obtain ⟨result, stats, hresult, hok, -⟩ := exists_of_toldOf toldOf_paired
  exact ⟨result, stats, hresult, hok, tells_of_assets hresult hok⟩

/-- Two assets of one key that a story lists are both counted, and nothing is told of them. -/
theorem not_names_shared_paired : ¬∀ (c : Compiler) (r : Request) (world : World) (result : Result)
    (stats : Stats), (c.compile r world).1 = .ok result → result.outcome = .ok stats →
      ∀ d, c.draft world.workspace r = .ok d → stats.assets = d.supplies.assets.length →
        Asset.NamesShared d.supplies.assets result.warnings := by
  intro h
  have hkeys : ((booth Output.noRefusals).draft study.workspace paired).toOption.map
      (fun d => d.supplies.assets.map (·.key)) = some ["bg", "bg"] := by
    decide +kernel
  obtain ⟨result, stats, hresult, hok, hwarnings, -⟩ := exists_of_toldOf toldOf_paired
  obtain ⟨d, hdraft, hcounted, -⟩ := draft_of_compile hresult hok
  have hnamed := h _ _ _ result stats hresult hok d hdraft hcounted
  rw [hdraft] at hkeys
  have hboth : d.supplies.assets.map (·.key) = ["bg", "bg"] := Option.some.inj hkeys
  rw [Asset.NamesShared, hboth, hwarnings] at hnamed
  -- the two keys are one, and there is no warning that could name it
  obtain ⟨message, hmessage, -⟩ := List.rel_of_pairwise_cons hnamed List.mem_cons_self rfl
  exact List.not_mem_nil hmessage

end Compiler
end Storybind
