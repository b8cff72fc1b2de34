import Mathlib.Tactic
import Storybind.Proofs.Component.Extraction

/-!
Mounts whose fields are filled. A directive must have a character between the quotes of its component, its
script and its instance, and one that lacks it is reported. Fields are trimmed after that, so a field that
holds nothing but blanks is accepted, and the mount gets an empty one.
-/

namespace Storybind

namespace Directive

variable {f g : Fields} {a b s t u rest : List Char} {n : Nat}

/-! ### Directives with empty fields -/

/-- Whether a field that a directive must have is empty. -/
def Fields.Lacks (f : Fields) : Prop := f.component = [] ∨ f.script = [] ∨ f.instanceName = []

/-- A directive as it is written, where any field may be empty. -/
inductive IsLoose (f : Fields) : List Char → Prop where
  | intro {start component script stylesheet name settings gap : List Char} (hstart : IsStart start)
      (hcomponent : IsField f.component component) (hscript : IsField f.script script)
      (hstylesheet : IsField f.stylesheet stylesheet) (hname : IsField f.instanceName name)
      (hsettings : IsField f.settings settings) (hgap : Blanks gap) :
      IsLoose f (start ++ (component ++ (script ++ (stylesheet ++ (name ++ (settings ++ (gap ++ closing)))))))

theorem isWritten_iff_isLoose : IsWritten f t ↔ IsLoose f t ∧ ¬f.Lacks := by
  constructor
  · rintro ⟨hstart, ⟨hcomponent, hscript, hstylesheet, hname, hsettings, hgap⟩⟩
    refine ⟨.intro hstart hcomponent.2 hscript.2 hstylesheet hname.2 hsettings hgap, ?_⟩
    rintro (hempty | hempty | hempty)
    · exact hcomponent.1 hempty
    · exact hscript.1 hempty
    · exact hname.1 hempty
  · rintro ⟨⟨hstart, hcomponent, hscript, hstylesheet, hname, hsettings, hgap⟩, hfull⟩
    obtain ⟨hfirst, hsecond, hfourth⟩ : f.component ≠ [] ∧ f.script ≠ [] ∧ f.instanceName ≠ [] := by
      simpa [Fields.Lacks] using hfull
    exact .intro hstart (.intro ⟨hfirst, hcomponent⟩ ⟨hsecond, hscript⟩ hstylesheet ⟨hfourth, hname⟩
      hsettings hgap)

theorem IsLoose.starts (h : IsLoose f t) (ht : t <+: s) : Starts s := by
  cases h with
  | intro hstart => exact ⟨_, hstart, (List.prefix_append _ _).trans ht⟩

theorem IsField.unique {r r' : List Char} (h : IsField a t) (h' : IsField b u)
    (heq : t ++ r = u ++ r') : a = b ∧ r = r' := by
  have hread : spaced? field? (t ++ r) = some (a, r) := spaced?_field.mpr ⟨t, h, rfl⟩
  have hread' : spaced? field? (t ++ r) = some (b, r') := spaced?_field.mpr ⟨u, h', heq⟩
  exact Prod.mk.inj (Option.some.inj (hread.symm.trans hread'))

/-- At a position the fields can be read in one way only, empty or not. -/
theorem IsLoose.unique (h : IsLoose f t) (h' : IsLoose g u) (ht : t <+: s) (hu : u <+: s) : f = g := by
  obtain ⟨r, rfl⟩ := ht
  obtain ⟨r', heq⟩ := hu
  cases h with
  | intro hstart hcomponent hscript hstylesheet hname hsettings hgap =>
    cases h' with
    | intro hstart' hcomponent' hscript' hstylesheet' hname' hsettings' hgap' =>
      simp only [List.append_assoc] at heq
      -- the first field is found behind the start, and every other one behind the field before it
      obtain ⟨-, heq⟩ := hstart'.unique hstart heq
      obtain ⟨hfirst, heq⟩ := hcomponent'.unique hcomponent heq
      obtain ⟨hsecond, heq⟩ := hscript'.unique hscript heq
      obtain ⟨hthird, heq⟩ := hstylesheet'.unique hstylesheet heq
      obtain ⟨hfourth, heq⟩ := hname'.unique hname heq
      obtain ⟨hfifth, -⟩ := hsettings'.unique hsettings heq
      cases f
      cases g
      simp_all

/-- Where a directive lacks a field, no directive stands. -/
theorem not_standsAt_of_lacks {w : List Char} (h : IsLoose f t) (ht : t <+: s.drop n) (hlacks : f.Lacks) :
    ¬StandsAt s n g w := by
  rintro ⟨hw, hbegin⟩
  obtain ⟨hloose, hfull⟩ := isWritten_iff_isLoose.mp hw
  rw [hloose.unique h hbegin ht] at hfull
  exact hfull hlacks

/-- Whether a field that a directive must have holds nothing but blanks. -/
def Fields.HoldsBlank (f : Fields) : Prop := Blanks f.component ∨ Blanks f.script ∨ Blanks f.instanceName

end Directive

open Storybind.Directive (Blanks Fields IsExtent IsLoose StandsAt Starts)
open Storybind.Sighting (directives ofScenes)

/-! ### The texts of a story -/

/-- Whether a text is one of those of a scene. -/
def Scene.Says (scene : Scene) (text : String) : Prop :=
  ∃ v ∈ scene.instructions, ∃ t ∈ Instruction.texts true v, t.2 = text

variable {scenes : List Scene} {scene : Scene} {text : String}

/-- A token of a text of a scene is one of the story. -/
theorem Sighting.exists_of_said {token : DirectiveToken} (hscene : scene ∈ scenes)
    (hsaid : scene.Says text) (htoken : token ∈ Directive.find text) :
    ∃ s ∈ ofScenes scenes, s.scene = scene.name ∧ s.token = token := by
  obtain ⟨v, hv, t, ht, rfl⟩ := hsaid
  obtain ⟨i, hi⟩ := List.mem_iff_getElem?.mp hscene
  obtain ⟨j, hj⟩ := List.mem_iff_getElem?.mp hv
  obtain ⟨k, hk⟩ := List.mem_iff_getElem?.mp ht
  refine ⟨⟨i, scene.name, j, k, token⟩, ?_, rfl, rfl⟩
  exact mem_ofScenes.mpr ⟨scene, v, t, hi, rfl, hj, hk, htoken⟩

theorem Sighting.StandsIn.said {s : Sighting} (h : s.StandsIn scenes) :
    ∃ scene ∈ scenes, ∃ text, s.scene = scene.name ∧ scene.Says text ∧ s.token ∈ Directive.find text := by
  obtain ⟨scene, v, t, hscene, hname, hv, ht, htoken⟩ := h
  exact ⟨scene, List.mem_of_getElem? hscene, t.2, hname,
    ⟨v, List.mem_of_getElem? hv, t, List.mem_of_getElem? ht, rfl⟩, htoken⟩

namespace Mount

variable {w : Workspace} {places : Lookup} {found : Extraction} {f : Fields} {m : Mount}

/-- Whether a mount has the fields of a directive, trimmed. -/
structure Carries (m : Mount) (f : Fields) : Prop where
  component : m.component = Text.trim (String.ofList f.component)
  script : m.script = Text.trim (String.ofList f.script)
  instanceName : m.instanceName = Text.trim (String.ofList f.instanceName)

/-- Whether a mount has a component, a script and the name of an instance. -/
def IsFilled (m : Mount) : Prop := m.component ≠ "" ∧ m.script ≠ "" ∧ m.instanceName ≠ ""

theorem Carries.isFilled_iff (h : m.Carries f) : m.IsFilled ↔ ¬f.HoldsBlank := by
  have htrim (cs : List Char) : Text.trim (String.ofList cs) = "" ↔ Blanks cs := by
    rw [Text.trim_eq_empty, String.toList_ofList]
    rfl
  rw [IsFilled, h.component, h.script, h.instanceName, Ne, Ne, Ne, htrim, htrim, htrim,
    Directive.Fields.HoldsBlank]
  simp only [not_or]

theorem IsMountOf.carries {s : Sighting} {start number : Nat}
    (h : IsMountOf w places s (f.directive start) number m) : m.Carries f :=
  ⟨h.component, h.script, h.instanceName⟩

/-- Whether the text from a position on, up to and with the next closing braces, is warned about. -/
def Reported (found : Extraction) (scene : Scene) (text : String) (n : Nat) : Prop :=
  ∃ extent : String, IsExtent extent.toList (text.toList.drop n) ∧
    malformedWarning scene.name extent ∈ found.warnings

theorem Accounts.exists_standsAt (h : Accounts w places (ofScenes scenes) found) (hm : m ∈ found.mounts) :
    ∃ scene ∈ scenes, ∃ text n f written, scene.Says text ∧ StandsAt text.toList n f written ∧
      m.Carries f := by
  obtain ⟨k, hk⟩ := List.mem_iff_getElem?.mp hm
  obtain ⟨⟨s, d⟩, hx, hmount⟩ := exists_isMountOf h.mounts hk
  obtain ⟨hs, htoken⟩ := Sighting.mem_directives.mp (List.mem_of_getElem? hx)
  obtain ⟨scene, hscene, text, -, hsaid, hfind⟩ := (Sighting.mem_ofScenes.mp hs).said
  rw [htoken] at hfind
  obtain ⟨f, written, hstands, hd⟩ := ((Directive.tokenizes_find text).directive d).mp hfind
  rw [hd] at hmount
  exact ⟨scene, hscene, text, _, f, written, hsaid, hstands, hmount.carries⟩

theorem Accounts.exists_mount {written : List Char} {n : Nat}
    (h : Accounts w places (ofScenes scenes) found) (hscene : scene ∈ scenes) (hsaid : scene.Says text)
    (hstands : StandsAt text.toList n f written) : ∃ m ∈ found.mounts, m.Carries f := by
  have htoken : .directive (f.directive n) ∈ Directive.find text :=
    ((Directive.tokenizes_find text).directive (f.directive n)).mpr ⟨f, written, hstands, rfl⟩
  obtain ⟨s, hs, -, hst⟩ := Sighting.exists_of_said hscene hsaid htoken
  have hmem : (s, f.directive n) ∈ directives (ofScenes scenes) := Sighting.mem_directives.mpr ⟨hs, hst⟩
  obtain ⟨k, hk, hget⟩ := List.mem_iff_getElem.mp hmem
  -- the mount at the place of the directive is its own
  have hlength := h.mounts.length_eq
  rw [List.length_zipIdx] at hlength
  have hlt : k < found.mounts.length := by omega
  obtain ⟨x, hx, hmount⟩ := exists_isMountOf h.mounts (List.getElem?_eq_getElem hlt)
  rw [List.getElem?_eq_getElem hk, hget] at hx
  obtain rfl := Option.some.inj hx
  exact ⟨_, List.getElem_mem hlt, hmount.carries⟩

theorem Accounts.reported {n : Nat} (h : Accounts w places (ofScenes scenes) found)
    (hscene : scene ∈ scenes) (hsaid : scene.Says text) (hstarts : Starts (text.toList.drop n))
    (hnone : ∀ f written, ¬StandsAt text.toList n f written) : Reported found scene text n := by
  have hextent : IsExtent (String.ofList (Directive.extent (text.toList.drop n))).toList
      (text.toList.drop n) := by
    rw [String.toList_ofList]
    exact Directive.isExtent_iff.mpr rfl
  have htoken := ((Directive.tokenizes_find text).malformed _ n).mpr ⟨hstarts, hnone, hextent⟩
  obtain ⟨s, hs, hname, hst⟩ := Sighting.exists_of_said hscene hsaid htoken
  refine ⟨_, hextent, ?_⟩
  rw [h.warnings, List.mem_flatMap]
  refine ⟨s, hs, ?_⟩
  rw [hst, hname]
  exact List.mem_singleton_self _

/-- The mounts of a story are those of its whole directives, which lack none of the three fields that they
must have, and a directive that lacks one is reported. All mounts are filled exactly if no such field of a
whole directive holds nothing but blanks. -/
theorem extract_fills (h : extract w places (scenes.map Scene.toRecord) = .ok found) :
    (∀ m ∈ found.mounts, ∃ scene ∈ scenes, ∃ text n f written, scene.Says text ∧
      StandsAt text.toList n f written ∧ ¬f.Lacks ∧ m.Carries f) ∧
    (∀ scene ∈ scenes, ∀ text n f written, scene.Says text → IsLoose f written →
      written <+: text.toList.drop n → f.Lacks → Reported found scene text n) ∧
    (∀ scene ∈ scenes, ∀ text n, scene.Says text → Starts (text.toList.drop n) →
      (∀ f written, ¬StandsAt text.toList n f written) → Reported found scene text n) ∧
    ((∀ m ∈ found.mounts, m.IsFilled) ↔ ∀ scene ∈ scenes, ∀ text n f written, scene.Says text →
      StandsAt text.toList n f written → ¬f.HoldsBlank) := by
  have haccounts := accounts_of_extract h
  refine ⟨?_, ?_, ?_, ?_⟩
  · intro m hm
    obtain ⟨scene, hscene, text, n, f, written, hsaid, hstands, hcarries⟩ := haccounts.exists_standsAt hm
    have hfull := (Directive.isWritten_iff_isLoose.mp hstands.1).2
    exact ⟨scene, hscene, text, n, f, written, hsaid, hstands, hfull, hcarries⟩
  · intro scene hscene text n f written hsaid hloose hbegin hlacks
    apply haccounts.reported hscene hsaid (hloose.starts hbegin)
    intro g written'
    exact Directive.not_standsAt_of_lacks hloose hbegin hlacks
  · intro scene hscene text n hsaid hstarts hnone
    exact haccounts.reported hscene hsaid hstarts hnone
  · constructor
    · intro hfilled scene hscene text n f written hsaid hstands
      obtain ⟨m, hm, hcarries⟩ := haccounts.exists_mount hscene hsaid hstands
      exact hcarries.isFilled_iff.mp (hfilled m hm)
    · intro hfull m hm
      obtain ⟨scene, hscene, text, n, f, written, hsaid, hstands, hcarries⟩ :=
        haccounts.exists_standsAt hm
      exact hcarries.isFilled_iff.mpr (hfull scene hscene text n f written hsaid hstands)

/-- A directive that lacks its component, and one whose script is a blank. -/
def gaps : List Scene :=
  [⟨"intro", [.text ("\x7b\x7bcomponent 'create' '' 'k.js' 'k.css' 'i' ''\x7d\x7d " ++
    "\x7b\x7bcomponent 'create' 'K' ' ' 'k.css' 'i' ''\x7d\x7d")]⟩]

theorem exists_extract_gaps : ∃ found, extract Check.bare [] (gaps.map Scene.toRecord) = .ok found ∧
    found.mounts.map (fun m => (m.component, m.script, m.instanceName)) = [("K", "", "i")] ∧
    found.warnings = ["Malformed component directive in scene 'intro': " ++
      "\x7b\x7bcomponent 'create' '' 'k.js' 'k.css' 'i' ''\x7d\x7d"] := by
  have hfound : (extract Check.bare [] (gaps.map Scene.toRecord)).toOption.map (fun found =>
      (found.mounts.map (fun m => (m.component, m.script, m.instanceName)), found.warnings)) =
        some ([("K", "", "i")], ["Malformed component directive in scene 'intro': " ++
          "\x7b\x7bcomponent 'create' '' 'k.js' 'k.css' 'i' ''\x7d\x7d"]) := by decide +kernel
  cases hextract : extract Check.bare [] (gaps.map Scene.toRecord) with
  | error e =>
    rw [hextract] at hfound
    cases hfound
  | ok found =>
    rw [hextract] at hfound
    obtain ⟨hmounts, hwarnings⟩ := Prod.mk.inj (Option.some.inj hfound)
    exact ⟨found, rfl, hmounts, hwarnings⟩

theorem extract_fills_gaps : ∃ found, extract Check.bare [] (gaps.map Scene.toRecord) = .ok found ∧
    (∃ m ∈ found.mounts, ¬m.IsFilled ∧ ∃ f, ¬f.Lacks ∧ m.Carries f) ∧
    ¬∀ scene ∈ gaps, ∀ text n f written, scene.Says text → StandsAt text.toList n f written →
      ¬f.HoldsBlank := by
  obtain ⟨found, hfound, hmounts, -⟩ := exists_extract_gaps
  obtain ⟨hwhole, -, -, hfilled⟩ := extract_fills hfound
  obtain ⟨m, hm, hfields⟩ := List.mem_map.mp (hmounts ▸ List.mem_singleton_self _)
  obtain ⟨-, hscript, -⟩ : m.component = "K" ∧ m.script = "" ∧ m.instanceName = "i" := by
    simpa using hfields
  have hempty : ¬m.IsFilled := fun h => h.2.1 hscript
  obtain ⟨-, -, -, -, f, -, -, -, hfull, hcarries⟩ := hwhole m hm
  exact ⟨found, hfound, ⟨m, hm, hempty, f, hfull, hcarries⟩, fun h => hempty (hfilled.mpr h m hm)⟩

/-- A field that is a blank leaves a mount without it. -/
theorem not_filled_gaps : ¬∀ (w : Workspace) (places : Lookup) (scenes : List Scene) (found : Extraction),
    extract w places (scenes.map Scene.toRecord) = .ok found → ∀ m ∈ found.mounts, m.IsFilled := by
  intro h
  obtain ⟨found, hfound, hmounts, -⟩ := exists_extract_gaps
  obtain ⟨m, hm, hfields⟩ := List.mem_map.mp (hmounts ▸ List.mem_singleton_self _)
  obtain ⟨-, hscript, -⟩ : m.component = "K" ∧ m.script = "" ∧ m.instanceName = "i" := by
    simpa using hfields
  exact (h Check.bare [] gaps found hfound m hm).2.1 hscript

end Mount
end Storybind
