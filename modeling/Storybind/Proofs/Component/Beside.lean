import Mathlib.Tactic
import Storybind.Proofs.Component.Extraction
import Storybind.Proofs.Component.Loading
import Storybind.Proofs.Lookup

/-!
The stylesheet beside a script. Extraction looks for it under three names, and for each name at all spots;
loading looks the name up once more. Both searches end at the same file.
-/

namespace Storybind

open Storybind.Except (Fails not_fails not_fails_of_isOk not_fails_ok)
open Storybind.Sighting (directives ofScenes)

namespace Mount

variable {w : Workspace} {places : Lookup} {script base css : String} {style : Option String}
  {scenes : List Scene} {found : Extraction} {s : Sighting} {d : Directive} {m : Mount}

/-! ### The name of the stylesheet -/

/-- Whether a text is the path of a script without the extension of its last segment. -/
def IsBase (script base : String) : Prop :=
  ∃ ext, script.toList = base.toList ++ '.' :: ext ∧ '.' ∉ ext ∧ '/' ∉ ext

/-- What follows the last slash of a path. -/
def lastSegment (cs : List Char) : List Char :=
  match Text.cutAtLast? '/' cs with
  | some (_, segment) => segment
  | none => cs

theorem lastSegment_suffix (cs : List Char) : lastSegment cs <:+ cs ∧ '/' ∉ lastSegment cs := by
  unfold lastSegment
  cases hcut : Text.cutAtLast? '/' cs with
  | none => exact ⟨List.suffix_rfl, Text.cutAtLast?_eq_none.mp hcut⟩
  | some cut =>
    obtain ⟨hcs, hsegment⟩ := Text.cutAtLast?_eq_some.mp hcut
    exact ⟨⟨cut.1 ++ ['/'], by rw [hcs, List.append_assoc]; rfl⟩, hsegment⟩

/-- The last segment is the longest end of a path without a slash. -/
theorem suffix_lastSegment {cs rest : List Char} (hsuffix : rest <:+ cs) (hrest : '/' ∉ rest) :
    rest <:+ lastSegment cs := by
  unfold lastSegment
  cases hcut : Text.cutAtLast? '/' cs with
  | none => exact hsuffix
  | some cut =>
    have hlast : '/' :: cut.2 <:+ cs := ⟨cut.1, (Text.cutAtLast?_eq_some.mp hcut).1.symm⟩
    rcases List.suffix_or_suffix_of_suffix hsuffix hlast with hin | hover
    · rcases List.suffix_cons_iff.mp hin with rfl | hin
      · exact absurd List.mem_cons_self hrest
      · exact hin
    · exact absurd (hover.subset List.mem_cons_self) hrest

/-- A path is cut at its last point, if the last segment has one. -/
theorem scriptBase?_eq_some : scriptBase? script = some base ↔ IsBase script base := by
  have hsegment : scriptBase? script =
      if (lastSegment script.toList).contains '.' then
        (Text.cutAtLast? '.' script.toList).map fun r => String.ofList r.1
      else none := rfl
  rw [hsegment]
  constructor
  · intro h
    split at h
    · next hpoint =>
      obtain ⟨⟨before, ext⟩, hcut, rfl⟩ := Option.map_eq_some_iff.mp h
      obtain ⟨hscript, hext⟩ := Text.cutAtLast?_eq_some.mp hcut
      refine ⟨ext, by rw [String.toList_ofList, hscript], hext, fun hslash => ?_⟩
      -- a slash behind the last point would end the last segment before it
      obtain ⟨hlast, hnone⟩ := lastSegment_suffix script.toList
      have hends : ext <:+ script.toList := ⟨before ++ ['.'], by rw [hscript, List.append_assoc]; rfl⟩
      rcases List.suffix_or_suffix_of_suffix hends hlast with hin | hover
      · exact hnone (hin.subset hslash)
      · exact hext (hover.subset (List.contains_iff_mem.mp hpoint))
    · cases h
  · rintro ⟨ext, hscript, hpoint, hslash⟩
    have hends : '.' :: ext <:+ lastSegment script.toList :=
      suffix_lastSegment ⟨base.toList, hscript.symm⟩ (by simpa using hslash)
    have hcut := Text.cutAtLast?_append base.toList hpoint
    rw [if_pos (List.contains_iff_mem.mpr (hends.subset List.mem_cons_self)), hscript, hcut, Option.map_some,
      String.ofList_toList]

theorem scriptBase?_eq_none : scriptBase? script = none ↔ ¬∃ base, IsBase script base := by
  rw [Option.eq_none_iff_forall_ne_some, not_exists]
  exact forall_congr' fun base => not_congr scriptBase?_eq_some

/-! ### The first name that leads to a file -/

/-- Whether a stylesheet is the one beside a script: of three names the first that leads to a file. -/
structure Beside (w : Workspace) (places : Lookup) (script : String) (style : Option String) : Prop where
  named : ∀ base, IsBase script base → style =
    [base ++ "-styles.css", base ++ ".css", base ++ "-style.css"].find? (Lookup.leadsToFile w places)
  unnamed : (¬∃ base, IsBase script base) → style = none

/-- The first name that leads to a file, and its look-up is done. -/
theorem firstFound_eq_ok {paths : List String} (h : firstFound w places paths = .ok style) :
    style = paths.find? (Lookup.leadsToFile w places) ∧
      ∀ css ∈ style, ¬Fails (Lookup.find w css places) := by
  induction paths with
  | nil =>
    cases h
    exact ⟨rfl, nofun⟩
  | cons path rest ih =>
    rw [firstFound] at h
    rw [List.find?_cons]
    cases hfind : Lookup.find w path places with
    | error e =>
      simp only [hfind] at h
      cases h
    | ok answer =>
      rw [← Lookup.isSome_path?_of_find hfind]
      cases answer with
      | file p name =>
        simp only [hfind] at h
        cases h
        refine ⟨rfl, fun css hcss => ?_⟩
        obtain rfl := Option.some.inj hcss
        rw [hfind]
        exact not_fails_ok _
      | missing requested tried =>
        simp only [hfind] at h
        exact ih h

theorem besideScript_eq_ok (h : besideScript w places script = .ok style) :
    Beside w places script style ∧ ∀ css ∈ style, ¬Fails (Lookup.find w css places) := by
  unfold besideScript at h
  cases hbase : scriptBase? script with
  | none =>
    rw [hbase] at h
    cases h
    have hnone := scriptBase?_eq_none.mp hbase
    exact ⟨⟨fun base hfull => absurd ⟨base, hfull⟩ hnone, fun _ => rfl⟩, nofun⟩
  | some base =>
    simp only [hbase] at h
    obtain ⟨hfirst, hlook⟩ := firstFound_eq_ok h
    have hfull := scriptBase?_eq_some.mp hbase
    refine ⟨⟨fun base' hfull' => ?_, fun hnone => absurd ⟨base, hfull⟩ hnone⟩, hlook⟩
    rw [← scriptBase?_eq_some, hbase] at hfull'
    obtain rfl := Option.some.inj hfull'
    exact hfirst

/-- A stylesheet beside a script is at one of its spots. -/
theorem Beside.leadsToFile (h : Beside w places script (some css)) :
    Lookup.leadsToFile w places css = true := by
  by_cases hbase : ∃ base, IsBase script base
  · obtain ⟨base, hbase⟩ := hbase
    exact List.find?_some (h.named base hbase).symm
  · cases h.unnamed hbase

/-! ### Loading it -/

/-- Whether all look-ups that the directives of a story ask for can be done. -/
structure CanLook (w : Workspace) (places : Lookup) (ss : List Sighting) : Prop where
  scripts : ∀ s ∈ ss, ∀ d, s.token = .directive d → ¬Fails (Lookup.find w d.script places)
  given : ∀ s ∈ ss, ∀ d, s.token = .directive d → ∀ css, d.stylesheet = some css →
    ¬Fails (Lookup.find w css places)
  beside : CanLookBeside w places ss

/-- What was looked up for a directive can be looked up again for its mount. -/
theorem CanLook.not_fails_find {ss : List Sighting} (h : CanLook w places ss) (hs : s ∈ ss)
    (htoken : s.token = .directive d) {number : Nat} (hm : IsMountOf w places s d number m)
    {kind : PartKind} {path : String} (hpath : kind.pathOf? m = some path) :
    ¬Fails (Lookup.find w path places) := by
  cases kind with
  | script =>
    obtain rfl := Option.some.inj hpath
    rw [hm.script]
    exact h.scripts s hs d htoken
  | stylesheet =>
    have hcss : m.stylesheet = some path := (Option.filter_eq_some_iff.mp hpath).1
    cases hgiven : d.stylesheet with
    | some css =>
      obtain rfl : css = path := by
        rw [hm.given css hgiven] at hcss
        exact Option.some.inj hcss
      exact h.given s hs d htoken css hgiven
    | none => exact (besideScript_eq_ok (hm.beside hgiven)).2 path hcss

end Mount

namespace Parts

variable {w : Workspace} {places : Lookup} {mounts : List Mount} {parts : Parts} {css : String} {file : Path}

/-- What loading owes to a stylesheet whose look-up ends at a file. -/
structure Serves (w : Workspace) (places : Lookup) (mounts : List Mount) (parts : Parts) (css : String)
    (file : Path) : Prop where
  resolved : ∀ p ∈ parts.styles, p.requested = css → p.resolved = file.toText
  loaded : ∀ text, w.readText file = .ok text → css ∉ parts.missing ∧
    ∃ p ∈ parts.styles, p.requested = css ∧ p.content = text
  unread : ∀ e, w.readText file = .error e → (PartKind.stylesheet, css) ∈ failures w places mounts
  unresolved : List.Forall₂ (fun k warning => k = (PartKind.stylesheet, css) → ∃ component e,
    w.readText file = .error e ∧ warning = "Could not read stylesheet for component " ++ component ++ " (" ++
      file.toText ++ "): " ++ e.message) (failures w places mounts) parts.warnings

/-- Where the look-up ends at a file, what is opened is that file. -/
theorem opened?_of_find {name : String} (h : Lookup.find w css places = .ok (.file file name)) {file' : Path}
    {text : String} : opened? w places css = some (file', text) ↔ file' = file ∧ w.readText file = .ok text := by
  rw [opened?_eq_some]
  constructor
  · rintro ⟨⟨name', h'⟩, htext⟩
    rw [h] at h'
    obtain ⟨rfl, -⟩ := Found.file.inj (Except.ok.inj h')
    exact ⟨rfl, htext⟩
  · rintro ⟨rfl, htext⟩
    exact ⟨⟨name, h⟩, htext⟩

/-- A path whose file is opened stands for a part with the text of the file. -/
theorem LoadsEach.exists_of_opened (h : LoadsEach w places mounts parts) {kind : PartKind} {text : String}
    (hcss : css ∈ kind.paths mounts) (hread : opened? w places css = some (file, text)) :
    ∃ p ∈ parts.ofKind kind, p.requested = css ∧ p.content = kind.content text := by
  have hmem : css ∈ (parts.ofKind kind).map (·.requested) := by
    rw [h.requested, List.mem_filter, List.mem_eraseDups, hread]
    exact ⟨hcss, rfl⟩
  obtain ⟨p, hp, hrequested⟩ := List.mem_map.mp hmem
  obtain ⟨-, file', text', hread', -, hcontent⟩ := h.loaded kind p hp
  rw [hrequested, hread] at hread'
  obtain ⟨-, rfl⟩ := Prod.mk.inj (Option.some.inj hread')
  exact ⟨p, hp, hrequested, hcontent⟩

theorem LoadsEach.not_mem_missing (h : LoadsEach w places mounts parts) {kind : PartKind}
    (hcss : css ∈ kind.paths mounts) {p : Part} (hp : p ∈ parts.ofKind kind) (hrequested : p.requested = css) :
    css ∉ parts.missing := by
  rcases h.once kind css hcss with ⟨-, hthere⟩ | ⟨hcount, -⟩
  · exact hthere
  · exact absurd (List.mem_map.mpr ⟨p, hp, hrequested⟩) (List.count_eq_zero.mp hcount)

theorem serves_of_loadsEach (h : LoadsEach w places mounts parts)
    (hcss : css ∈ PartKind.stylesheet.paths mounts)
    (hfile : ∃ name, Lookup.find w css places = .ok (.file file name)) :
    Serves w places mounts parts css file := by
  obtain ⟨name, hfind⟩ := hfile
  constructor
  · intro p hp hrequested
    obtain ⟨-, file', text, hread, hresolved, -⟩ := h.loaded .stylesheet p hp
    rw [hrequested] at hread
    rw [hresolved, ((opened?_of_find hfind).mp hread).1]
  · intro text htext
    obtain ⟨p, hp, hrequested, hcontent⟩ :=
      h.exists_of_opened hcss ((opened?_of_find hfind).mpr ⟨rfl, htext⟩)
    exact ⟨h.not_mem_missing hcss hp hrequested, p, hp, hrequested, hcontent⟩
  · intro e he
    refine mem_failures.mpr ⟨hcss, Option.eq_none_iff_forall_ne_some.mpr ?_⟩
    intro ⟨file', text⟩ hread
    rw [((opened?_of_find hfind).mp hread).2] at he
    cases he
  · -- a warning is about the look-up or about the file, and the look-up of this path ends at a file
    refine h.warnings.imp fun {k warning} hwarning hk => ?_
    obtain ⟨component, -, hleft⟩ := hwarning
    subst hk
    cases hleft with
    | missing hmissing =>
      rw [hfind] at hmissing
      cases hmissing
    | unreadable hfind' hread =>
      rw [hfind] at hfind'
      obtain ⟨rfl, -⟩ := Found.file.inj (Except.ok.inj hfind')
      exact ⟨component, _, hread, rfl⟩

/-- Loading fails for a look-up only. -/
theorem exists_load (h : ∀ kind : PartKind, ∀ path ∈ kind.paths mounts, ¬Fails (Lookup.find w path places)) :
    ∃ parts, load w places mounts = .ok parts := by
  refine not_fails.mp fun hfails => ?_
  obtain ⟨r, hr, hfails⟩ := fails_load.mp hfails
  have hkey : key r ∈ (asks mounts).map key := by
    rw [← List.mem_eraseDups, ← map_key_requests]
    exact List.mem_map_of_mem hr
  exact h r.1 r.2.1 (mem_keys.mp hkey) hfails

end Parts

namespace Mount

variable {w : Workspace} {places : Lookup} {ss : List Sighting} {found : Extraction}

theorem Accounts.forall₂_mounts (h : Accounts w places ss found) :
    List.Forall₂ (fun x m => m ∈ found.mounts ∧ ∃ number, IsMountOf w places x.1 x.2 number m)
      (directives ss) found.mounts := by
  have hlength : (directives ss).length = found.mounts.length := by
    rw [← h.mounts.length_eq, List.length_zipIdx]
  refine List.forall₂_iff_get.mpr ⟨hlength, fun i hx hm => ⟨List.get_mem _ _, i + 1, ?_⟩⟩
  obtain ⟨x, hget, hmount⟩ := exists_isMountOf h.mounts (List.getElem?_eq_getElem hm)
  rw [List.getElem?_eq_getElem hx] at hget
  rw [List.get_eq_getElem, Option.some.inj hget]
  exact hmount

/-- Where all look-ups can be done, a directive without a stylesheet gets the first of the three names beside
its script that leads to a file, and loading ends at the first spot of that name that holds one. Only
settings can keep a story from being gone through. -/
theorem besides_served (w : Workspace) (places : Lookup) (scenes : List Scene)
    (hlook : CanLook w places (ofScenes scenes)) :
    (Fails (extract w places (scenes.map Scene.toRecord)) ↔
      ∃ s ∈ ofScenes scenes, ∃ d, s.token = .directive d ∧ MountSettings.HoldOverlong d.settings) ∧
    ∀ found, extract w places (scenes.map Scene.toRecord) = .ok found →
      ∃ parts, Parts.load w places found.mounts = .ok parts ∧
        List.Forall₂ (fun x m => m.script = x.2.script ∧ (x.2.stylesheet = none →
          Beside w places x.2.script m.stylesheet ∧ ∀ css ∈ m.stylesheet, ∃ file,
            (Lookup.spots w places css).find? w.holdsFile = some file ∧
            Parts.Serves w places found.mounts parts css file)) (directives (ofScenes scenes)) found.mounts := by
  constructor
  · rw [fails_of_sightings]
    refine exists_congr fun s => and_congr_right fun hs => exists_congr fun d => and_congr_right fun htoken => ?_
    refine or_iff_left ?_
    rintro ⟨hnone, hfails⟩
    exact hlook.beside s hs d htoken hnone hfails
  · intro found hfound
    have haccounts := accounts_of_extract hfound
    obtain ⟨parts, hload⟩ : ∃ parts, Parts.load w places found.mounts = .ok parts := by
      refine Parts.exists_load fun kind path hpath => ?_
      obtain ⟨m, hm, hpath⟩ := List.mem_filterMap.mp hpath
      obtain ⟨k, hk⟩ := List.mem_iff_getElem?.mp hm
      obtain ⟨x, hx, hmount⟩ := exists_isMountOf haccounts.mounts hk
      obtain ⟨hs, htoken⟩ := Sighting.mem_directives.mp (List.mem_of_getElem? hx)
      exact hlook.not_fails_find hs htoken hmount hpath
    refine ⟨parts, hload, haccounts.forall₂_mounts.imp fun {x m} hxm => ?_⟩
    obtain ⟨hm, number, hmount⟩ := hxm
    refine ⟨hmount.script, fun hnone => ?_⟩
    obtain ⟨hbeside, hdone⟩ := besideScript_eq_ok (hmount.beside hnone)
    refine ⟨hbeside, fun css hcss => ?_⟩
    have hstyle : m.stylesheet = some css := hcss
    rw [hstyle] at hbeside
    have hleads := hbeside.leadsToFile
    obtain ⟨file, hfile⟩ := Option.isSome_iff_exists.mp (List.find?_isSome.mpr (List.any_eq_true.mp hleads))
    have hpath : css ∈ PartKind.stylesheet.paths found.mounts := by
      refine List.mem_filterMap.mpr ⟨m, hm, ?_⟩
      rw [PartKind.pathOf?, hstyle, Option.filter_some, Lookup.isEmpty_of_leadsToFile hleads]
      rfl
    exact ⟨file, hfile, Parts.serves_of_loadsEach (Parts.loadsEach_of_load hload) hpath
      (Lookup.find_eq_file (hdone css hcss) hfile)⟩

/-- A script beside a stylesheet with a later name, and a stylesheet with an earlier one somewhere else. -/
def cellar : Workspace :=
  ⟨⟨[(["a.b"], .directory), (["a.b", "k.js"], .file [107]), (["a.b", "k-style.css"], .file []),
      (["q"], .directory), (["q", "a.b"], .directory), (["q", "a.b", "k.css"], .file [98])]⟩,
    ⟨"/", ["q"]⟩, ⟨"/", []⟩, ⟨"/", []⟩⟩

def cellarPlaces : Lookup := [⟨"script_dir", .directory ⟨"/", []⟩⟩, ⟨"nowhere", .absent⟩, ⟨"cwd", .working⟩]

/-- A directive whose script stands behind a step back, and one whose script has no extension. -/
def cellarScenes : List Scene :=
  [⟨"intro", [.text "\x7b\x7bcomponent 'create' 'K' 'x/../a.b/k.js' '' 'i' ''\x7d\x7d",
    .text "\x7b\x7bcomponent 'create' 'L' 'a.b/k' '' 'j' ''\x7d\x7d"]⟩]

theorem besides_served_cellar : CanLook cellar cellarPlaces (ofScenes cellarScenes) ∧
    ∃ found parts, extract cellar cellarPlaces (cellarScenes.map Scene.toRecord) = .ok found ∧
      Parts.load cellar cellarPlaces found.mounts = .ok parts ∧
      List.Forall₂ (fun x m => m.script = x.2.script ∧ (x.2.stylesheet = none →
        Beside cellar cellarPlaces x.2.script m.stylesheet ∧ ∀ css ∈ m.stylesheet, ∃ file,
          (Lookup.spots cellar cellarPlaces css).find? cellar.holdsFile = some file ∧
          Parts.Serves cellar cellarPlaces found.mounts parts css file))
        (directives (ofScenes cellarScenes)) found.mounts ∧
      found.mounts.map (·.stylesheet) = [some "x/../a.b/k.css", none] ∧
      parts.styles.map (·.resolved) = ["/q/a.b/k.css"] := by
  have hdirectives : ∀ x ∈ directives (ofScenes cellarScenes), x.2.stylesheet = none ∧
      (Lookup.find cellar x.2.script cellarPlaces).isOk = true ∧
      (besideScript cellar cellarPlaces x.2.script).isOk = true := by decide +kernel
  have hlook : CanLook cellar cellarPlaces (ofScenes cellarScenes) := by
    constructor
    · intro s hs d htoken
      exact not_fails_of_isOk (hdirectives (s, d) (Sighting.mem_directives.mpr ⟨hs, htoken⟩)).2.1
    · intro s hs d htoken css hcss
      rw [(hdirectives (s, d) (Sighting.mem_directives.mpr ⟨hs, htoken⟩)).1] at hcss
      cases hcss
    · intro s hs d htoken _
      exact not_fails_of_isOk (hdirectives (s, d) (Sighting.mem_directives.mpr ⟨hs, htoken⟩)).2.2
  have hstyles : ((extract cellar cellarPlaces (cellarScenes.map Scene.toRecord)).toOption.bind fun found =>
      (Parts.load cellar cellarPlaces found.mounts).toOption.map fun parts =>
        (found.mounts.map (·.stylesheet), parts.styles.map (·.resolved))) =
      some ([some "x/../a.b/k.css", none], ["/q/a.b/k.css"]) := by decide +kernel
  obtain ⟨-, hserved⟩ := besides_served cellar cellarPlaces cellarScenes hlook
  cases hfound : extract cellar cellarPlaces (cellarScenes.map Scene.toRecord) with
  | error e =>
    rw [hfound] at hstyles
    cases hstyles
  | ok found =>
    obtain ⟨parts, hload, hmounts⟩ := hserved found hfound
    rw [hfound] at hstyles
    simp only [Except.toOption, Option.bind_some, hload, Option.map_some] at hstyles
    obtain ⟨hattached, hresolved⟩ := Prod.mk.inj (Option.some.inj hstyles)
    exact ⟨hlook, found, parts, rfl, hload, hmounts, hattached, hresolved⟩

end Mount
end Storybind
