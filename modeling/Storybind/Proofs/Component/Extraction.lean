import Mathlib.Tactic
import Storybind.Proofs.Compile.Supplies
import Storybind.Proofs.Script.Malformed
import Storybind.Proofs.Script.Settings
import Storybind.Proofs.Script.Tokens

/-!
What extraction finds. The tokens of a story are gone through in document order; each becomes a mount or a
warning, and the mounts are numbered in that order.
-/

namespace Storybind

open Storybind.Except (Fails bind_eq_error bind_eq_ok exists_of_foldlM_eq_error fails_foldlM foldlM_collects
  foldlM_congr foldlM_flatMap map_eq_error map_eq_ok mapError_eq_error mapError_eq_ok not_fails_ok)

def DirectiveToken.directive? : DirectiveToken → Option Directive
  | directive d => some d
  | malformed _ _ => none

/-! ### The tokens of a story -/

/-- A token of a story, with the places of its scene, its instruction and its text. -/
structure Sighting where
  sceneIndex : Nat
  scene : String
  instruction : Nat
  textIndex : Nat
  token : DirectiveToken

namespace Sighting

/-- Document order. -/
def Before (a b : Sighting) : Prop :=
  a.sceneIndex < b.sceneIndex ∨ a.sceneIndex = b.sceneIndex ∧
    (a.instruction < b.instruction ∨ a.instruction = b.instruction ∧
      (a.textIndex < b.textIndex ∨ a.textIndex = b.textIndex ∧ a.token.start < b.token.start))

/-- Whether a token is found in the text, the instruction and the scene that it is said to stand in. -/
def StandsIn (scenes : List Scene) (s : Sighting) : Prop :=
  ∃ scene v t, scenes[s.sceneIndex]? = some scene ∧ s.scene = scene.name ∧
    scene.instructions[s.instruction]? = some v ∧ (Instruction.texts true v)[s.textIndex]? = some t ∧
    s.token ∈ Directive.find t.2

/-- The tokens of an instruction. -/
def ofInstruction (sceneIndex : Nat) (scene : String) (instruction : Nat) (v : Value) : List Sighting :=
  (Instruction.texts true v).zipIdx.flatMap fun t =>
    (Directive.find t.1.2).map fun token => ⟨sceneIndex, scene, instruction, t.2, token⟩

/-- The tokens of a scene. -/
def ofScene (sceneIndex : Nat) (scene : Scene) : List Sighting :=
  scene.instructions.zipIdx.flatMap fun v => ofInstruction sceneIndex scene.name v.2 v.1

/-- The tokens of a story. -/
def ofScenes (scenes : List Scene) : List Sighting := scenes.zipIdx.flatMap fun p => ofScene p.2 p.1

/-- The directives among tokens. -/
def directives (ss : List Sighting) : List (Sighting × Directive) :=
  ss.filterMap fun s => s.token.directive?.map (s, ·)

variable {s : Sighting} {scenes : List Scene} {scene : Scene} {v : Value} {i j : Nat} {name : String}

theorem mem_ofInstruction : s ∈ ofInstruction i name j v ↔
    (s.sceneIndex = i ∧ s.scene = name ∧ s.instruction = j) ∧
      ∃ t, (Instruction.texts true v)[s.textIndex]? = some t ∧ s.token ∈ Directive.find t.2 := by
  simp only [ofInstruction, List.mem_flatMap, List.mem_map, List.mem_zipIdx_iff_getElem?]
  constructor
  · rintro ⟨⟨t, k⟩, ht, token, htoken, rfl⟩
    exact ⟨⟨rfl, rfl, rfl⟩, t, ht, htoken⟩
  · rintro ⟨⟨rfl, rfl, rfl⟩, t, ht, htoken⟩
    exact ⟨(t, s.textIndex), ht, s.token, htoken, rfl⟩

theorem mem_ofScene : s ∈ ofScene i scene ↔ (s.sceneIndex = i ∧ s.scene = scene.name) ∧
    ∃ v t, scene.instructions[s.instruction]? = some v ∧
      (Instruction.texts true v)[s.textIndex]? = some t ∧ s.token ∈ Directive.find t.2 := by
  simp only [ofScene, List.mem_flatMap, List.mem_zipIdx_iff_getElem?, mem_ofInstruction]
  constructor
  · rintro ⟨⟨v, k⟩, hv, ⟨hi, hname, rfl⟩, t, ht, htoken⟩
    exact ⟨⟨hi, hname⟩, v, t, hv, ht, htoken⟩
  · rintro ⟨⟨hi, hname⟩, v, t, hv, ht, htoken⟩
    exact ⟨(v, s.instruction), hv, ⟨hi, hname, rfl⟩, t, ht, htoken⟩

theorem mem_ofScenes : s ∈ ofScenes scenes ↔ s.StandsIn scenes := by
  simp only [ofScenes, List.mem_flatMap, List.mem_zipIdx_iff_getElem?, mem_ofScene]
  constructor
  · rintro ⟨⟨scene, k⟩, hscene, ⟨rfl, hname⟩, v, t, hv, ht, htoken⟩
    exact ⟨scene, v, t, hscene, hname, hv, ht, htoken⟩
  · rintro ⟨scene, v, t, hscene, hname, hv, ht, htoken⟩
    exact ⟨(scene, s.sceneIndex), hscene, ⟨rfl, hname⟩, v, t, hv, ht, htoken⟩

/-- Lists that are put together in the order of their places keep an order that goes by place first. -/
theorem pairwise_flatMap_zipIdx {α β : Type} {R : β → β → Prop} (xs : List α) (f : α × Nat → List β)
    (hwithin : ∀ x, (f x).Pairwise R)
    (hacross : ∀ x y, x.2 < y.2 → ∀ a ∈ f x, ∀ b ∈ f y, R a b) : (xs.zipIdx.flatMap f).Pairwise R := by
  rw [List.pairwise_flatMap]
  refine ⟨fun x _ => hwithin x, ?_⟩
  have hplaces : (xs.zipIdx.map Prod.snd).Pairwise (· < ·) := by
    rw [List.zipIdx_map_snd]
    exact List.pairwise_lt_range'
  exact (List.pairwise_map.mp hplaces).imp fun {x y} hlt => hacross x y hlt

theorem pairwise_ofScenes (scenes : List Scene) : (ofScenes scenes).Pairwise Before := by
  refine pairwise_flatMap_zipIdx scenes _ (fun p => ?_) ?_
  · refine pairwise_flatMap_zipIdx p.1.instructions _ (fun v => ?_) ?_
    · refine pairwise_flatMap_zipIdx (Instruction.texts true v.1) _ (fun t => ?_) ?_
      · refine List.pairwise_map.mpr ((Directive.tokenizes_find t.1.2).ordered.imp ?_)
        intro a b hlt
        exact .inr ⟨rfl, .inr ⟨rfl, .inr ⟨rfl, hlt⟩⟩⟩
      · intro t u hlt a ha b hb
        obtain ⟨token, -, rfl⟩ := List.mem_map.mp ha
        obtain ⟨token', -, rfl⟩ := List.mem_map.mp hb
        exact .inr ⟨rfl, .inr ⟨rfl, .inl hlt⟩⟩
    · intro v u hlt a ha b hb
      obtain ⟨⟨hi, -, hj⟩, -⟩ := mem_ofInstruction.mp ha
      obtain ⟨⟨hi', -, hj'⟩, -⟩ := mem_ofInstruction.mp hb
      exact .inr ⟨hi.trans hi'.symm, .inl (by omega)⟩
  · intro p q hlt a ha b hb
    obtain ⟨⟨hi, -⟩, -⟩ := mem_ofScene.mp ha
    obtain ⟨⟨hi', -⟩, -⟩ := mem_ofScene.mp hb
    exact .inl (by omega)

theorem map_ofScene (i : Nat) (scene : Scene) :
    (ofScene i scene).map (fun s => (s.instruction, s.token)) = Mount.sceneTokens scene := by
  have hinstruction (j : Nat) (v : Value) :
      (ofInstruction i scene.name j v).map (fun s => (s.instruction, s.token)) =
        (Instruction.texts true v).flatMap fun t =>
          (Directive.find t.2).map fun token => (j, token) := by
    have hzip := flatMap_zipIdx (Instruction.texts true v) fun t =>
      (Directive.find t.2).map fun token => (j, token)
    rw [ofInstruction, List.map_flatMap, ← hzip]
    simp only [List.map_map]
    rfl
  rw [ofScene, List.map_flatMap, Mount.sceneTokens]
  simp only [hinstruction]

theorem mem_directives {ss : List Sighting} {x : Sighting × Directive} :
    x ∈ directives ss ↔ x.1 ∈ ss ∧ x.1.token = .directive x.2 := by
  obtain ⟨s, d⟩ := x
  simp only [directives, List.mem_filterMap, Option.map_eq_some_iff, Prod.mk.injEq]
  constructor
  · rintro ⟨s', hs', d', hd', rfl, rfl⟩
    refine ⟨hs', ?_⟩
    cases htoken : s'.token with
    | directive d =>
      rw [htoken] at hd'
      exact congrArg _ (Option.some.inj hd')
    | malformed text start =>
      rw [htoken] at hd'
      cases hd'
  · rintro ⟨hs, htoken⟩
    exact ⟨s, hs, d, by rw [htoken]; rfl, rfl, rfl⟩

end Sighting

open Sighting (directives ofScenes)

/-! ### Numbers -/

namespace Mount

variable {w : Workspace} {places : Lookup} {scenes : List Scene} {found found' : Extraction}
  {ss : List Sighting} {s : Sighting} {d : Directive} {m : Mount} {number : Nat}

theorem hyphen_not_mem (n : Nat) : '-' ∉ (toString n).toList := by
  rw [Json.Numeral.toList_toString]
  intro hmem
  exact absurd (Json.Numeral.allDigits_toDigits n _ hmem) (by decide)

/-- The number of a mount is what follows the last hyphen of its identity. -/
theorem number_of_identity {component component' scene scene' : String} {n n' : Nat}
    (h : identity component scene n = identity component' scene' n') : n = n' := by
  -- names may hold hyphens, so the identity is cut at its last one, which no digit is
  have hcut (c s : String) (n : Nat) : Text.cutAtLast? '-' (identity c s n).toList =
      some (("component-" ++ Text.lower c ++ "-" ++ s).toList, (toString n).toList) := by
    rw [Text.cutAtLast?_eq_some]
    refine ⟨?_, hyphen_not_mem n⟩
    simp [identity]
  have hsame := hcut component scene n
  rw [h, hcut] at hsame
  have hdigits := (Prod.mk.inj (Option.some.inj hsame)).2
  exact (Nat.repr_inj.mp (String.toList_injective hdigits)).symm

/-- Whether a mount is that of a directive with a number. -/
structure IsMountOf (w : Workspace) (places : Lookup) (s : Sighting) (d : Directive) (number : Nat)
    (m : Mount) : Prop where
  id : m.id = identity d.component s.scene number
  component : m.component = d.component
  script : m.script = d.script
  given : ∀ style, d.stylesheet = some style → m.stylesheet = some style
  beside : d.stylesheet = none → besideScript w places d.script = .ok m.stylesheet
  instanceName : m.instanceName = d.instanceName
  settings : ∃ skipped, MountSettings.read d.settings = .ok ⟨m.settings, skipped⟩
  scene : m.scene = s.scene
  instruction : m.instruction = s.instruction

theorem isMountOf_ofDirective (h : ofDirective w places s.scene s.instruction number d = .ok m) :
    IsMountOf w places s d number m := by
  obtain ⟨⟨values, skipped⟩, hsettings, h⟩ := bind_eq_ok.mp h
  have hread := mapError_eq_ok.mp hsettings
  cases hstyle : d.stylesheet with
  | some style =>
    rw [hstyle] at h
    cases h
    refine ⟨rfl, rfl, rfl, fun given hgiven => hstyle.symm.trans hgiven, fun hnone => ?_, rfl,
      ⟨skipped, hread⟩, rfl, rfl⟩
    rw [hstyle] at hnone
    cases hnone
  | none =>
    rw [hstyle] at h
    obtain ⟨found, hfound, h⟩ := bind_eq_ok.mp h
    cases h
    refine ⟨rfl, rfl, rfl, fun given hgiven => ?_, fun _ => mapError_eq_ok.mp hfound, rfl,
      ⟨skipped, hread⟩, rfl, rfl⟩
    rw [hstyle] at hgiven
    cases hgiven

/-- Takes in a token of a story. -/
def takeSighting (w : Workspace) (places : Lookup) (found : Extraction) (s : Sighting) :
    Except MountError Extraction := takeToken w places s.scene found (s.instruction, s.token)

theorem extract_eq (w : Workspace) (places : Lookup) (scenes : List Scene) :
    extract w places (scenes.map Scene.toRecord) =
      (ofScenes scenes).foldlM (takeSighting w places) ⟨[], []⟩ := by
  have hrecord (found : Extraction) (scene : Scene) (i : Nat) :
      takeRecord w places found scene.toRecord =
        (Sighting.ofScene i scene).foldlM (takeSighting w places) found := by
    rw [takeRecord, ofRecord?_toRecord]
    simp only
    rw [← Sighting.map_ofScene i, List.foldlM_map]
    refine foldlM_congr (fun s hs found => ?_) found
    obtain ⟨⟨-, hname⟩, -⟩ := Sighting.mem_ofScene.mp hs
    rw [takeSighting, hname]
  have hscenes : scenes = scenes.zipIdx.map Prod.fst := (List.zipIdx_map_fst 0 scenes).symm
  rw [extract, List.foldlM_map, ofScenes, foldlM_flatMap]
  conv_lhs => rw [hscenes, List.foldlM_map]
  exact foldlM_congr (fun p _ found => hrecord found p.1 p.2) _

theorem warnings_takeSighting (h : takeSighting w places found s = .ok found') :
    found'.warnings = found.warnings ++ s.token.broken.map (malformedWarning s.scene) :=
  warnings_takeToken h

/-- A directive becomes the next mount, anything else none. -/
theorem mounts_takeSighting (h : takeSighting w places found s = .ok found') :
    (s.token.directive? = none ∧ found'.mounts = found.mounts) ∨
      ∃ d m, s.token.directive? = some d ∧ found'.mounts = found.mounts ++ [m] ∧
        IsMountOf w places s d (found.mounts.length + 1) m := by
  unfold takeSighting at h
  cases htoken : s.token with
  | malformed text start =>
    rw [htoken] at h
    cases h
    exact .inl ⟨rfl, rfl⟩
  | directive d =>
    rw [htoken] at h
    obtain ⟨m, hm, rfl⟩ := map_eq_ok.mp h
    exact .inr ⟨d, m, rfl, rfl, isMountOf_ofDirective hm⟩

/-- The mounts that are found after others are numbered after them. -/
theorem mounts_foldlM (h : ss.foldlM (takeSighting w places) found = .ok found') :
    ∃ ms, found'.mounts = found.mounts ++ ms ∧
      List.Forall₂ (fun x m => IsMountOf w places x.1.1 x.1.2 x.2 m)
        ((directives ss).zipIdx (found.mounts.length + 1)) ms := by
  -- the number of the next mount is told by how many there are
  induction ss generalizing found with
  | nil =>
    cases h
    exact ⟨[], (List.append_nil _).symm, .nil⟩
  | cons s ss ih =>
    rw [List.foldlM_cons] at h
    obtain ⟨next, hnext, hrest⟩ := bind_eq_ok.mp h
    obtain ⟨ms, hms, hnumbers⟩ := ih hrest
    rcases mounts_takeSighting hnext with ⟨hnone, hsame⟩ | ⟨d, m, hd, hmore, hm⟩
    · rw [hsame] at hms hnumbers
      refine ⟨ms, hms, ?_⟩
      rwa [directives, List.filterMap_cons, hnone]
    · rw [hmore] at hms hnumbers
      refine ⟨m :: ms, by rw [hms, List.append_assoc]; rfl, ?_⟩
      rw [directives, List.filterMap_cons, hd, Option.map_some, List.zipIdx_cons]
      refine .cons hm ?_
      rwa [List.length_append, List.length_singleton] at hnumbers

/-- What extraction owes to the tokens of a story. -/
structure Accounts (w : Workspace) (places : Lookup) (ss : List Sighting) (found : Extraction) : Prop where
  mounts : List.Forall₂ (fun x m => IsMountOf w places x.1.1 x.1.2 x.2 m) ((directives ss).zipIdx 1)
    found.mounts
  warnings : found.warnings = ss.flatMap fun s => s.token.broken.map (malformedWarning s.scene)
  total : found.mounts.length + found.warnings.length = ss.length
  distinct : (found.mounts.map (·.id)).Nodup
  numbered : ∀ k m, found.mounts[k]? = some m → ∃ stem, m.id = stem ++ "-" ++ toString (k + 1)

theorem length_directives (ss : List Sighting) :
    (directives ss).length + (ss.flatMap fun s => s.token.broken).length = ss.length := by
  induction ss with
  | nil => rfl
  | cons s ss ih =>
    rw [directives, List.filterMap_cons, List.flatMap_cons, List.length_cons, ← ih, directives]
    cases s.token with
    | directive d => simp [DirectiveToken.directive?, DirectiveToken.broken]; omega
    | malformed text start => simp [DirectiveToken.directive?, DirectiveToken.broken]; omega

/-- The mount at a place is that of the directive at the same place, and numbered by it. -/
theorem exists_isMountOf {xs : List (Sighting × Directive)} {ms : List Mount} {k : Nat}
    (h : List.Forall₂ (fun x m => IsMountOf w places x.1.1 x.1.2 x.2 m) (xs.zipIdx 1) ms)
    (hm : ms[k]? = some m) : ∃ x, xs[k]? = some x ∧ IsMountOf w places x.1 x.2 (k + 1) m := by
  obtain ⟨hlength, hall⟩ := List.forall₂_iff_get.mp h
  obtain ⟨hk, rfl⟩ := List.getElem?_eq_some_iff.mp hm
  rw [List.length_zipIdx] at hlength
  have hmount := hall k (by rw [List.length_zipIdx]; omega) hk
  simp only [List.get_eq_getElem, List.getElem_zipIdx] at hmount
  rw [Nat.add_comm]
  exact ⟨_, List.getElem?_eq_getElem (by omega), hmount⟩

theorem accounts_of_extract (h : extract w places (scenes.map Scene.toRecord) = .ok found) :
    Accounts w places (ofScenes scenes) found := by
  rw [extract_eq] at h
  obtain ⟨ms, hms, hmounts⟩ := mounts_foldlM h
  obtain rfl : found.mounts = ms := hms
  have hwarnings : found.warnings = [] ++ _ := foldlM_collects Extraction.warnings
    (fun s => s.token.broken.map (malformedWarning s.scene)) (fun _ _ _ => warnings_takeSighting) h
  rw [List.nil_append] at hwarnings
  refine ⟨hmounts, hwarnings, ?_, ?_, ?_⟩
  · have hlength := hmounts.length_eq
    have htotal := length_directives (ofScenes scenes)
    rw [List.length_zipIdx] at hlength
    rw [hwarnings, ← hlength, ← htotal]
    simp [List.length_flatMap]
  · -- one identity has one number, and a number is a place
    refine List.pairwise_map.mpr (List.pairwise_iff_getElem.mpr fun i j hi hj hij heq => ?_)
    obtain ⟨x, -, hmount⟩ := exists_isMountOf hmounts (List.getElem?_eq_getElem hi)
    obtain ⟨y, -, hmount'⟩ := exists_isMountOf hmounts (List.getElem?_eq_getElem hj)
    rw [hmount.id, hmount'.id] at heq
    have hnumber := number_of_identity heq
    omega
  · intro k m hm
    obtain ⟨⟨s, d⟩, -, hmount⟩ := exists_isMountOf hmounts hm
    exact ⟨"component-" ++ Text.lower d.component ++ "-" ++ s.scene, hmount.id⟩

/-! ### Failures -/

theorem fails_takeSighting (found : Extraction) (s : Sighting) :
    Fails (takeSighting w places found s) ↔ ∃ d, s.token = .directive d ∧
      (MountSettings.HoldOverlong d.settings ∨
        d.stylesheet = none ∧ Fails (besideScript w places d.script)) := by
  simp only [takeSighting, fails_takeToken, MountSettings.fails_read]

theorem fails_of_sightings : Fails (extract w places (scenes.map Scene.toRecord)) ↔
    ∃ s ∈ ofScenes scenes, ∃ d, s.token = .directive d ∧ (MountSettings.HoldOverlong d.settings ∨
      d.stylesheet = none ∧ Fails (besideScript w places d.script)) := by
  rw [extract_eq]
  exact fails_foldlM fails_takeSighting _ _

/-- Whether the look-ups of the stylesheets that directives leave open can be done. -/
def CanLookBeside (w : Workspace) (places : Lookup) (ss : List Sighting) : Prop :=
  ∀ s ∈ ss, ∀ d, s.token = .directive d → d.stylesheet = none → ¬Fails (besideScript w places d.script)

/-- Where no look-up fails, a token fails for its settings only. -/
theorem takeSighting_eq_error {e : MountError} (hlook : CanLookBeside w places ss) (hs : s ∈ ss)
    (h : takeSighting w places found s = .error e) :
    ∃ limit, e = .digits limit := by
  unfold takeSighting at h
  cases htoken : s.token with
  | malformed text start =>
    rw [htoken] at h
    cases h
  | directive d =>
    rw [htoken] at h
    rcases bind_eq_error.mp (map_eq_error.mp h) with hsettings | ⟨settings, -, h⟩
    · obtain ⟨limit, -, rfl⟩ := mapError_eq_error.mp hsettings
      exact ⟨limit, rfl⟩
    · cases hstyle : d.stylesheet with
      | some style =>
        rw [hstyle] at h
        cases h
      | none =>
        rw [hstyle] at h
        rcases bind_eq_error.mp h with hbesides | ⟨found, -, h⟩
        · obtain ⟨e', he', -⟩ := mapError_eq_error.mp hbesides
          exact absurd ⟨e', he'⟩ (hlook s hs d htoken hstyle)
        · cases h

/-- Two scenes of one name, with directives in a text, in a choice and in a branch. -/
def twins : List Scene :=
  [⟨"day-1", [.text "\x7b\x7bcomponent \"create\" \"K\" \"k\" \"\" \"a\" \"n=1\"\x7d\x7d \x7b\x7bcomponent \"create\"\x7d\x7d",
      .record [
        ("choices", .ofList [.record [("text",
          .text "\x7b\x7bcomponent 'create' 'K-1' 'k' 'k.css' 'b' ''\x7d\x7d")]]),
        ("else", .record [("say", .text "\x7b\x7bcomponent 'create' 'K' 'k' 'null' 'c' ''\x7d\x7d")])]]⟩,
    ⟨"day-1", [.text "\x7b\x7bcomponent 'create' 'K' 'k' 'k.css' 'd' 'x'\x7d\x7d"]⟩]

/-- A directive with a setting of so many digits. -/
def counted (n : Nat) : Directive.Fields :=
  ⟨['K'], ['k'], ['k'], ['i'], ['n', '='] ++ List.replicate n '1'⟩

theorem forall_mem_settings {P : Char → Prop} {n : Nat} (hname : P 'n') (hmark : P '=') (hdigit : P '1') :
    ∀ c ∈ (counted n).settings, P c := by
  refine List.forall_mem_cons.mpr ⟨hname, List.forall_mem_cons.mpr ⟨hmark, fun c hc => ?_⟩⟩
  rwa [List.eq_of_mem_replicate hc]

theorem exists_isWritten_counted (n : Nat) : ∃ t, Directive.IsWritten (counted n) t := by
  have hone (c : Char) (hc : Directive.isQuote c = false) :
      [c] ≠ [] ∧ ∀ c' ∈ [c], Directive.isQuote c' = false :=
    ⟨List.cons_ne_nil c [], List.forall_mem_singleton.mpr hc⟩
  exact Directive.exists_isWritten (hone 'K' rfl) (hone 'k' rfl) (hone 'k' rfl).2 (hone 'i' rfl)
    (forall_mem_settings rfl rfl rfl)

theorem holdOverlong_counted {n : Nat} (h : maxDigits < n) :
    MountSettings.HoldOverlong (Text.trim (String.ofList (counted n).settings)) := by
  have hdigits : ∀ c ∈ List.replicate n '1', c = '1' := fun c => List.eq_of_mem_replicate
  have hblankless : ∀ c ∈ List.replicate n '1', Text.isBlank c = false := by
    intro c hc
    rw [hdigits c hc]
    decide
  have htrim := Text.trimmed_of_forall (forall_mem_settings (n := n) (P := (Text.isBlank · = false)) rfl rfl rfl)
  have hcomma : ',' ∉ (counted n).settings := fun hmem =>
    absurd rfl (forall_mem_settings (P := (',' ≠ ·)) (by decide) (by decide) (by decide) ',' hmem)
  rw [Text.trim_eq_self.mpr (by rwa [String.toList_ofList])]
  refine ⟨String.ofList (counted n).settings, ?_, ['n'], List.replicate n '1', ?_, by decide, ?_⟩
  · rw [Text.split, String.toList_ofList, Text.splitChars_of_not_mem hcomma]
    exact List.mem_singleton_self _
  · rw [String.toList_ofList]
    exact Text.cutAt?_append (s := ['n']) (by decide) _
  · rw [Text.trimChars_eq_self.mpr (Text.trimmed_of_forall hblankless)]
    refine ⟨[], _, .inl rfl, fun c hc => ?_, ?_, rfl⟩
    · rw [hdigits c hc]
      decide
    · rwa [List.length_replicate]

end Mount
end Storybind
