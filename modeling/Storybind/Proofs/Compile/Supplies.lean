import Mathlib.Tactic
import Storybind.Compile.Compiler
import Storybind.Proofs.Compile.Files
import Storybind.Proofs.Dependency.Contributions

/-!
What is gathered for a story, its libraries, assets and components, and what about them ends a compile.
An item is refused by itself, whatever stands before it.
-/

namespace Storybind

open Storybind.Except (Fails fails_bind fails_bind_of fails_map fails_mapError fails_foldlM
  mapError_eq_ok not_fails_ok not_fails_pure)

namespace Declared

variable {presets : Presets} {pattern : String}

/-- A section is refused exactly for an item that is refused by itself. -/
theorem isSome_given {step : Value → Declared → Declared × Option EntryError} (title : String)
    {s : Value} : (∃ part ∈ given title step s, part.2.isSome) ↔
      ∃ label items v, s = .list label items ∧ v ∈ items ∧ (step v .empty).2.isSome := by
  unfold given
  split
  · simp
  · simp
  · next hlist =>
    refine iff_of_false (by simp) ?_
    rintro ⟨label, items, v, rfl, -⟩
    exact hlist label items rfl

theorem ofScript_isSome {dependencies quick : Value} :
    (ofScript presets pattern dependencies quick).2.isSome ↔
      (∃ label items v, quick = .list label items ∧ v ∈ items ∧
        (quickEntry presets pattern v .empty).2.isSome) ∨
      ∃ label items v, dependencies = .list label items ∧ v ∈ items ∧
        (entry presets pattern v .empty).2.isSome := by
  rw [ofScript_eq, isSome_gather, ← isSome_given "dependencies_quick",
    ← isSome_given "dependencies"]
  simp only [List.mem_append, or_and_right, exists_or]

end Declared

namespace Compiler

variable {c : Compiler} {w : Workspace} {r : Request}

theorem addLibraries_isSome {libraries : List AddedLibrary} {d : Declared} :
    (addLibraries c libraries d).2.isSome ↔ ∃ s, .short s ∈ libraries ∧
      (Declared.entry c.presets c.settings.packageAddress (.text s) .empty).2.isSome := by
  induction libraries generalizing d with
  | nil => simp [addLibraries]
  | cons library rest ih =>
    cases library with
    | declared x => simp [addLibraries, ih]
    | short s =>
      have hentry : (Declared.entry c.presets c.settings.packageAddress (.text s) .empty).2.isSome =
          (Declared.entry c.presets c.settings.packageAddress (.text s) d).2.isSome :=
        congrArg (fun r => r.2.isSome)
          ((Declared.itemwise_entry c.presets c.settings.packageAddress).alone (.text s) d).symm
      unfold addLibraries
      cases hstep : Declared.entry c.presets c.settings.packageAddress (.text s) d with
      | mk d' problem =>
        rw [hstep] at hentry
        cases problem with
        | none =>
          simp only [ih, List.mem_cons, AddedLibrary.short.injEq]
          constructor
          · rintro ⟨t, ht, hbad⟩
            exact ⟨t, .inr ht, hbad⟩
          · rintro ⟨t, rfl | ht, hbad⟩
            · rw [hentry] at hbad
              cases hbad
            · exact ⟨t, ht, hbad⟩
        | some e => exact iff_of_true rfl ⟨s, List.mem_cons_self, hentry⟩

theorem fails_librariesOf {story : Story} :
    Fails (c.librariesOf r story) ↔
      (Declared.ofScript c.presets c.settings.packageAddress (story.part "dependencies")
        (story.part "dependencies_quick")).2.isSome ∨
      (c.addLibraries r.libraries .empty).2.isSome := by
  unfold librariesOf
  cases Declared.ofScript c.presets c.settings.packageAddress (story.part "dependencies")
    (story.part "dependencies_quick") with
  | mk own problem =>
    cases problem with
    | some e => simp [Fails]
    | none =>
      cases c.addLibraries r.libraries .empty with
      | mk added problem => cases problem <;> simp [Fails]

end Compiler

theorem Asset.fails_fromDirectory {w : Workspace} {limit : Int} {directory : String} :
    Fails (fromDirectory w limit directory) ↔ directory.isEmpty = false ∧
      w.volume.locate w.cwd (Path.ofString directory) = .error .nameTooLong := by
  have hthere : Fails (w.existsAt (Path.ofString directory)) ↔ _ := Volume.fails_leadsTo
  have hkind : Fails (w.isDirectory (Path.ofString directory)) ↔ _ := Volume.fails_leadsTo
  unfold fromDirectory
  cases hdirectory : directory.isEmpty with
  | true => simp [Fails, pure, Except.pure]
  | false =>
    simp only [Bool.false_eq_true, if_false, true_and]
    rw [fails_bind, hthere]
    -- where the entry was found, its kind can be told
    refine or_iff_left_of_imp ?_
    rintro ⟨there, hok, hfails⟩
    cases there with
    | false => exact absurd hfails (not_fails_ok _)
    | true =>
      rcases fails_bind.mp hfails with hfails | ⟨isDirectory, -, hfails⟩
      · exact hkind.mp hfails
      · cases isDirectory with
        | false => exact absurd hfails (not_fails_ok _)
        | true =>
          cases hlocate : w.volume.locate w.cwd (Path.ofString directory) with
          | error f => simp [hlocate, Fails, pure, Except.pure] at hfails
          | ok names => simp [hlocate, Fails, pure, Except.pure] at hfails

theorem Lookup.fails_usual {w : Workspace} {script : Option Path} :
    Fails (usual w script) ↔ ∃ p, script = some p ∧ '\x00' ∈ p.toText.toList := by
  unfold usual
  cases script with
  | none => simp [Fails, bind, Except.bind, pure, Except.pure]
  | some p =>
    simp only [Option.some.injEq, exists_eq_left']
    unfold fullPath
    by_cases hnul : '\x00' ∈ p.toText.toList
    · simp [Fails, bind, Except.bind, hnul]
    · simp [Fails, bind, Except.bind, pure, Except.pure, hnul]

namespace Mount

variable {w : Workspace} {places : Lookup}

/-- What about the record of a scene ends a compile without a result. -/
inductive Breaks (w : Workspace) (places : Lookup) (record : Value) : Prop where
  | instructions {v : Value} (h : Scene.ofRecord? record = .error v)
  | settings {scene : Scene} {index : Nat} {d : Directive}
      (hscene : Scene.ofRecord? record = .ok (some scene))
      (hd : (index, .directive d) ∈ sceneTokens scene) (h : Fails (MountSettings.read d.settings))
  | stylesheet {scene : Scene} {index : Nat} {d : Directive}
      (hscene : Scene.ofRecord? record = .ok (some scene))
      (hd : (index, .directive d) ∈ sceneTokens scene) (hnone : d.stylesheet = none)
      (h : Fails (besideScript w places d.script))

theorem fails_ofDirective {scene : String} {instruction number : Nat} {d : Directive} :
    Fails (ofDirective w places scene instruction number d) ↔
      Fails (MountSettings.read d.settings) ∨
        d.stylesheet = none ∧ Fails (besideScript w places d.script) := by
  unfold ofDirective
  cases MountSettings.read d.settings with
  | error e => simp [Fails, bind, Except.bind, Except.mapError]
  | ok settings =>
    cases d.stylesheet with
    | some s => simp [Fails, bind, Except.bind, Except.mapError, pure, Except.pure]
    | none =>
      cases besideScript w places d.script with
      | error e => simp [Fails, bind, Except.bind, Except.mapError]
      | ok style => simp [Fails, bind, Except.bind, Except.mapError, pure, Except.pure]

/-- Whether a token is refused does not depend on what was found before. -/
theorem fails_takeToken {scene : String} (found : Extraction) (token : Nat × DirectiveToken) :
    Fails (takeToken w places scene found token) ↔ ∃ d, token.2 = .directive d ∧
      (Fails (MountSettings.read d.settings) ∨
        d.stylesheet = none ∧ Fails (besideScript w places d.script)) := by
  obtain ⟨index, token⟩ := token
  cases token with
  | malformed text position => simp [takeToken, Fails]
  | directive d => simp [takeToken, fails_map, fails_ofDirective]

theorem fails_takeRecord (found : Extraction) (record : Value) :
    Fails (takeRecord w places found record) ↔ Breaks w places record := by
  unfold takeRecord
  constructor
  · intro h
    cases hscene : Scene.ofRecord? record with
    | error v => exact .instructions hscene
    | ok scene =>
      rw [hscene] at h
      cases scene with
      | none => exact absurd h (not_fails_ok _)
      | some scene =>
        obtain ⟨⟨index, token⟩, htoken, d, rfl, hread | ⟨hnone, hstyle⟩⟩ :=
          (fails_foldlM fails_takeToken _ _).mp h
        · exact .settings hscene htoken hread
        · exact .stylesheet hscene htoken hnone hstyle
  · intro h
    cases h with
    | instructions h =>
      rw [h]
      exact ⟨_, rfl⟩
    | settings hscene hd h =>
      rw [hscene]
      exact (fails_foldlM fails_takeToken _ _).mpr ⟨_, hd, _, rfl, .inl h⟩
    | stylesheet hscene hd hnone h =>
      rw [hscene]
      exact (fails_foldlM fails_takeToken _ _).mpr ⟨_, hd, _, rfl, .inr ⟨hnone, h⟩⟩

theorem fails_extract {records : List Value} :
    Fails (extract w places records) ↔ ∃ record ∈ records, Breaks w places record :=
  fails_foldlM fails_takeRecord records _

end Mount

namespace Parts

variable {w : Workspace} {places : Lookup}

theorem fails_loadOne (parts : Parts) (request : PartKind × String × String) :
    Fails (loadOne w places parts request) ↔ Fails (Lookup.find w request.2.1 places) := by
  obtain ⟨kind, requested, component⟩ := request
  unfold loadOne
  simp only
  cases Lookup.find w requested places with
  | error e => simp [Fails]
  | ok found =>
    refine iff_of_false ?_ (not_fails_ok _)
    cases found with
    | missing requested tried => exact not_fails_ok _
    | file path place =>
      simp only
      cases w.readText path with
      | error e => exact not_fails_ok _
      | ok content => cases kind <;> exact not_fails_ok _

theorem fails_load {mounts : List Mount} :
    Fails (load w places mounts) ↔
      ∃ request ∈ requests mounts, Fails (Lookup.find w request.2.1 places) :=
  fails_foldlM fails_loadOne _ _

end Parts

/-- What about the needs of a story ends a compile without a result. -/
inductive Supplies.Breaks (c : Compiler) (w : Workspace) (r : Request) (tale : Tale) : Prop where
  | quick {label : Nat} {items : List Value} {v : Value}
      (hsection : tale.story.part "dependencies_quick" = .list label items) (hv : v ∈ items)
      (h : (Declared.quickEntry c.presets c.settings.packageAddress v .empty).2.isSome)
  | entry {label : Nat} {items : List Value} {v : Value}
      (hsection : tale.story.part "dependencies" = .list label items) (hv : v ∈ items)
      (h : (Declared.entry c.presets c.settings.packageAddress v .empty).2.isSome)
  | library {s : String} (hs : .short s ∈ r.libraries)
      (h : (Declared.entry c.presets c.settings.packageAddress (.text s) .empty).2.isSome)
  | assets {d : String} (hassets : r.assets = some d) (hd : d.isEmpty = false)
      (h : w.volume.locate w.cwd (Path.ofString d) = .error .nameTooLong)
  | script {p : Path} (hscript : tale.script = some p) (h : '\x00' ∈ p.toText.toList)
  | scene {places : Lookup} {record : Value} (hplaces : Lookup.usual w tale.script = .ok places)
      (hrecord : record ∈ tale.scenes) (h : Mount.Breaks w places record)
  | part {places : Lookup} {found : Mount.Extraction} {request : PartKind × String × String}
      (hplaces : Lookup.usual w tale.script = .ok places)
      (hfound : Mount.extract w places tale.scenes = .ok found)
      (hrequest : request ∈ Parts.requests found.mounts)
      (h : Fails (Lookup.find w request.2.1 places))

namespace Compiler

variable {c : Compiler} {w : Workspace} {r : Request} {tale : Tale}

theorem fails_assetsOf {story : Story} :
    Fails (c.assetsOf w r story) ↔ ∃ d, r.assets = some d ∧ d.isEmpty = false ∧
      w.volume.locate w.cwd (Path.ofString d) = .error .nameTooLong := by
  unfold assetsOf
  cases r.assets with
  | none => simp [Fails, bind, Except.bind, pure, Except.pure]
  | some d =>
    have hfound : Fails (Asset.fromDirectory w (Asset.embedLimit c.embedLimit) d) ↔ _ :=
      Asset.fails_fromDirectory
    simp only [Option.some.injEq, exists_eq_left', fails_bind, hfound, not_fails_pure, and_false,
      exists_false, or_false]

theorem fails_componentsOf {script : Option Path} {scenes : List Value} :
    Fails (componentsOf w script scenes) ↔ Fails (Lookup.usual w script) ∨
      ∃ places, Lookup.usual w script = .ok places ∧
        ((∃ record ∈ scenes, Mount.Breaks w places record) ∨
          ∃ found, Mount.extract w places scenes = .ok found ∧
            ∃ request ∈ Parts.requests found.mounts, Fails (Lookup.find w request.2.1 places)) := by
  unfold componentsOf
  simp only [fails_bind, fails_mapError, mapError_eq_ok, Mount.fails_extract, Parts.fails_load,
    not_fails_pure, and_false, exists_false, or_false]

theorem fails_supplies : Fails (c.supplies w r tale) ↔ Supplies.Breaks c w r tale := by
  -- no stage uses what another one gave, so each breaks down by itself
  have hstages : Fails (c.supplies w r tale) ↔ Fails (c.librariesOf r tale.story) ∨
      Fails (c.assetsOf w r tale.story) ∨ Fails (componentsOf w tale.script tale.scenes) := by
    unfold supplies
    refine (fails_bind_of fun libraries => fails_bind_of fun assets =>
      (fails_bind_of fun components => iff_of_false (not_fails_ok _) id).trans
        (or_iff_left id)).trans ?_
    rw [fails_mapError, fails_mapError]
  rw [hstages, fails_librariesOf, Declared.ofScript_isSome, addLibraries_isSome, fails_assetsOf,
    fails_componentsOf, Lookup.fails_usual]
  constructor
  · rintro (((⟨label, items, v, hsection, hv, h⟩ | ⟨label, items, v, hsection, hv, h⟩) | ⟨s, hs, h⟩) |
      ⟨d, hassets, hd, h⟩ | ⟨p, hscript, h⟩ | ⟨places, hplaces, hcomponents⟩)
    · exact .quick hsection hv h
    · exact .entry hsection hv h
    · exact .library hs h
    · exact .assets hassets hd h
    · exact .script hscript h
    · rcases hcomponents with ⟨record, hrecord, h⟩ | ⟨found, hfound, request, hrequest, h⟩
      · exact .scene hplaces hrecord h
      · exact .part hplaces hfound hrequest h
  · intro h
    cases h with
    | quick hsection hv h => exact .inl (.inl (.inl ⟨_, _, _, hsection, hv, h⟩))
    | entry hsection hv h => exact .inl (.inl (.inr ⟨_, _, _, hsection, hv, h⟩))
    | library hs h => exact .inl (.inr ⟨_, hs, h⟩)
    | assets hassets hd h => exact .inr (.inl ⟨_, hassets, hd, h⟩)
    | script hscript h => exact .inr (.inr (.inl ⟨_, hscript, h⟩))
    | scene hplaces hrecord h => exact .inr (.inr (.inr ⟨_, hplaces, .inl ⟨_, hrecord, h⟩⟩))
    | part hplaces hfound hrequest h =>
      exact .inr (.inr (.inr ⟨_, hplaces, .inr ⟨_, hfound, _, hrequest, h⟩⟩))

end Compiler
end Storybind
