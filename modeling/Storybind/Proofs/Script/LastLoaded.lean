import Mathlib.Tactic
import Storybind.Proofs.Entries
import Storybind.Proofs.Except
import Storybind.Script.Scene

/-!
A book of scenes holds the scenes of the last text that told any without an error. A text tells one
scene for each key of its mapping, in order, and none if it is blank or null; what else a text may hold
is an error and leaves the book as it is.
-/

namespace Storybind

/-! ### Keys of a document -/

namespace Yaml

variable {shapes : Array (Option Shape)} {label : Nat} {es : Entries}

theorem distinct_of_assemble {fuel again : Nat} {path : List NodeId} {id : NodeId}
    (h : assemble shapes fuel again path id = .mapping label es) : es.Distinct := by
  cases fuel with
  | zero => cases h
  | succ fuel =>
    rw [assemble] at h
    split at h
    · cases h
    · cases h
    · simp only at h
      split at h
      · cases h
      · split at h
        · cases h
        · cases h
          exact Entries.distinct_ofPairs _
        · cases h
        · cases h
        · cases h
    · cases h

/-- No key of a loaded mapping is there twice. -/
theorem distinct_of_load {text : String} (h : load text = .ok (.mapping label es)) : es.Distinct := by
  obtain ⟨⟨nodes, root⟩, -, hroot⟩ := Except.bind_eq_ok.mp h
  cases root with
  | none => cases hroot
  | some id =>
    obtain ⟨⟨_, b⟩, -, hbuilt⟩ := Except.bind_eq_ok.mp hroot
    have hvalue : valueOf b.shapes id = .mapping label es := Except.ok.inj hbuilt
    rw [valueOf] at hvalue
    split at hvalue
    · exact distinct_of_assemble hvalue
    · exact distinct_of_assemble hvalue

end Yaml

namespace Scene

/-! ### What a text tells -/

/-- Whether a scene is what an entry of a mapping says: named by the text of the key, with what stands
under it as a list. -/
structure Describes (s : Scene) (e : Scalar × Value) : Prop where
  name : s.name = e.1.display
  nothing : e.2 = .null → s.instructions = []
  several : ∀ label items, e.2 = .list label items → s.instructions = items
  single : e.2 ≠ .null → (∀ label items, e.2 ≠ .list label items) → s.instructions = [e.2]

/-- Whether a text tells scenes. -/
inductive Tells (text : String) : List Scene → Prop where
  | blank (h : ∀ c ∈ text.toList, Text.isBlank c = true) : Tells text []
  | nothing (h : Yaml.load text = .ok .null) : Tells text []
  | mapping {label : Nat} {es : Entries} {scenes : List Scene}
      (hfilled : ∃ c ∈ text.toList, ¬Text.isBlank c = true)
      (h : Yaml.load text = .ok (.mapping label es)) (hdistinct : es.Distinct)
      (hnames : ∀ e ∈ es, ¬Yaml.isUnwritable e.1 = true)
      (hscenes : List.Forall₂ Describes scenes es) : Tells text scenes

theorem describes_iff {s : Scene} {e : Scalar × Value} :
    Describes s e ↔ s = ⟨e.1.display, instructionsOf e.2⟩ := by
  obtain ⟨name, instructions⟩ := s
  obtain ⟨k, v⟩ := e
  constructor
  · rintro ⟨hname, hnothing, hseveral, hsingle⟩
    dsimp only at hname hnothing hseveral hsingle
    rw [hname, Scene.mk.injEq]
    refine ⟨rfl, ?_⟩
    fun_cases instructionsOf v with
    | case1 => exact hnothing rfl
    | case2 label => exact hseveral label _ rfl
    | case3 _ hnull hlist => exact hsingle hnull hlist
  · rintro ⟨⟩
    refine ⟨rfl, ?_, ?_, fun hnull hlist => ?_⟩
    · rintro rfl
      rfl
    · rintro label items rfl
      rfl
    · dsimp only [instructionsOf]
      split
      · exact absurd rfl hnull
      · exact absurd rfl (hlist _ _)
      · rfl

theorem forall₂_describes_iff {scenes : List Scene} {es : Entries} :
    List.Forall₂ Describes scenes es ↔ scenes = ofEntries es := by
  have hmap := List.forall₂_map_right_iff (R := Eq) (l := scenes) (u := es)
    (f := fun e => ⟨e.1.display, instructionsOf e.2⟩)
  rw [List.forall₂_eq_eq_eq] at hmap
  have hdescribes : Describes = fun s e => s = ⟨e.1.display, instructionsOf e.2⟩ := by
    funext s e
    exact propext describes_iff
  rw [hdescribes]
  exact hmap.symm

theorem ofValue_eq_ok {v : Value} {scenes : List Scene} : ofValue v = .ok scenes ↔
    (v = .null ∧ scenes = []) ∨ ∃ label es, v = .mapping label es ∧
      (∀ e ∈ es, ¬Yaml.isUnwritable e.1 = true) ∧ List.Forall₂ Describes scenes es := by
  simp only [forall₂_describes_iff]
  constructor
  · intro h
    unfold ofValue at h
    split at h
    · cases h
      exact .inl ⟨rfl, rfl⟩
    · next label es =>
      split at h
      · cases h
      · next hnames =>
        cases h
        exact .inr ⟨label, es, rfl, by simpa using hnames, rfl⟩
    · cases h
  · rintro (⟨rfl, rfl⟩ | ⟨label, es, rfl, hnames, rfl⟩)
    · rfl
    · have hnone : es.any (fun e => Yaml.isUnwritable e.1) = false := by simpa using hnames
      rw [ofValue, hnone, if_neg Bool.false_ne_true]

theorem load_eq_ok_iff {text : String} {scenes : List Scene} :
    load text = .ok scenes ↔ Tells text scenes := by
  unfold load
  -- a blank text tells of no scene, whatever it would read as
  by_cases hblank : Text.isBlankText text = true
  · have hall : ∀ c ∈ text.toList, Text.isBlank c = true := List.all_eq_true.mp hblank
    rw [if_pos hblank]
    constructor
    · rintro ⟨⟩
      exact .blank hall
    · rintro (_ | _ | ⟨⟨c, hc, hfilled⟩, -, -, -, -⟩)
      · rfl
      · rfl
      · exact absurd (hall c hc) hfilled
  · have hfilled : ∃ c ∈ text.toList, ¬Text.isBlank c = true := by
      by_contra hnone
      exact hblank (List.all_eq_true.mpr fun c hc => by_contra fun h => hnone ⟨c, hc, h⟩)
    rw [if_neg hblank]
    constructor
    · intro h
      cases hload : Yaml.load text with
      | error e =>
        rw [hload] at h
        cases h
      | ok v =>
        rw [hload] at h
        obtain ⟨rfl, rfl⟩ | ⟨label, es, rfl, hnames, hscenes⟩ := ofValue_eq_ok.mp h
        · exact .nothing hload
        · exact .mapping hfilled hload (Yaml.distinct_of_load hload) hnames hscenes
    · rintro (hall | hload | ⟨-, hload, -, hnames, hscenes⟩)
      · exact absurd (List.all_eq_true.mpr hall) hblank
      · rw [hload]
        rfl
      · rw [hload]
        exact ofValue_eq_ok.mpr (.inr ⟨_, _, rfl, hnames, hscenes⟩)

end Scene

/-! ### One text after another -/

namespace SceneBook

open Scene (Tells)

variable {text : String} {texts : List String} {scenes : List Scene}

/-- The scenes that are left by texts: those that the last text tells that tells any. -/
inductive Leaves : List String → List Scene → Prop where
  | nothing {texts : List String} (h : ∀ t ∈ texts, ∀ scenes, ¬Tells t scenes) : Leaves texts []
  | last {before rest : List String} {text : String} {scenes : List Scene} (h : Tells text scenes)
      (hrest : ∀ t ∈ rest, ∀ scenes, ¬Tells t scenes) : Leaves (before ++ text :: rest) scenes

/-- A text that tells scenes replaces those of the book; one that tells none leaves them. -/
theorem load_cases (text : String) (book : SceneBook) :
    (∃ scenes, Tells text scenes ∧ book.load text = (none, ⟨scenes⟩)) ∨
      (∀ scenes, ¬Tells text scenes) ∧ ∃ e, book.load text = (some e, book) := by
  simp only [← Scene.load_eq_ok_iff]
  unfold load
  cases Scene.load text with
  | error e => exact .inr ⟨nofun, e, rfl⟩
  | ok scenes => exact .inl ⟨scenes, rfl, rfl⟩

theorem loadAll_concat (texts : List String) (text : String) (book : SceneBook) :
    book.loadAll (texts ++ [text]) = ((book.loadAll texts).load text).2 := by
  rw [loadAll, List.foldl_append]
  rfl

theorem Leaves.concat (h : Leaves texts scenes) (hnone : ∀ scenes, ¬Tells text scenes) :
    Leaves (texts ++ [text]) scenes := by
  cases h with
  | nothing h => exact .nothing (List.forall_mem_append.mpr ⟨h, List.forall_mem_singleton.mpr hnone⟩)
  | last h hrest =>
    rw [List.append_assoc, List.cons_append]
    exact .last h (List.forall_mem_append.mpr ⟨hrest, List.forall_mem_singleton.mpr hnone⟩)

theorem leaves_loadAll (texts : List String) : Leaves texts (empty.loadAll texts).scenes := by
  induction texts using List.reverseRecOn with
  | nil => exact .nothing nofun
  | append_singleton texts text ih =>
    rw [loadAll_concat]
    obtain ⟨scenes, htells, hload⟩ | ⟨hnone, e, hload⟩ := load_cases text (empty.loadAll texts)
    · rw [hload]
      exact .last htells nofun
    · rw [hload]
      exact ih.concat hnone

theorem loadAll_of_silent (h : ∀ t ∈ texts, ∀ scenes, ¬Tells t scenes) (book : SceneBook) :
    book.loadAll texts = book := by
  induction texts generalizing book with
  | nil => rfl
  | cons text rest ih =>
    obtain ⟨htext, hrest⟩ := List.forall_mem_cons.mp h
    obtain ⟨scenes, htells, -⟩ | ⟨-, e, hload⟩ := load_cases text book
    · exact absurd htells (htext scenes)
    · have hstep : book.loadAll (text :: rest) = (book.load text).2.loadAll rest := rfl
      rw [hstep, hload, ih hrest]

theorem Leaves.eq (h : Leaves texts scenes) : (empty.loadAll texts).scenes = scenes := by
  cases h with
  | nothing h => rw [loadAll_of_silent h, empty]
  | @last before rest text _ h hrest =>
    have hsplit : empty.loadAll (before ++ text :: rest) =
        ((empty.loadAll before).load text).2.loadAll rest := List.foldl_append
    obtain ⟨told, htold, hload⟩ | ⟨hnone, -⟩ := load_cases text (empty.loadAll before)
    · have hsame : told = scenes :=
        Except.ok.inj ((Scene.load_eq_ok_iff.mpr htold).symm.trans (Scene.load_eq_ok_iff.mpr h))
      rw [hsplit, hload, loadAll_of_silent hrest, hsame]
    · exact absurd h (hnone scenes)

/-- After any texts a book holds the scenes of the last that told any, or none. The next text either
tells scenes, which are then held, or is refused with an error and leaves the book as it was. -/
theorem loadAll_holds_latest (texts : List String) :
    (∀ scenes, (empty.loadAll texts).scenes = scenes ↔ Leaves texts scenes) ∧
    ∀ text, (∃ scenes, Tells text scenes ∧
        (empty.loadAll texts).load text = (none, ⟨scenes⟩)) ∨
      (∀ scenes, ¬Tells text scenes) ∧
        ∃ e, (empty.loadAll texts).load text = (some e, empty.loadAll texts) :=
  ⟨fun _ => ⟨fun h => h ▸ leaves_loadAll texts, Leaves.eq⟩,
    fun text => load_cases text (empty.loadAll texts)⟩

end SceneBook
end Storybind
