import Mathlib.Tactic
import Storybind.Lookup
import Storybind.Proofs.Compile.Files
import Storybind.Proofs.Except

/-!
What a look-up answers. A path may be meant to be at some spots: an absolute one at itself, a relative one
below each directory. The answer is the first spot that holds a file, or that none does. There is none where
a path is below the home of somebody else, or where a spot that is come to cannot be looked at.
-/

namespace Storybind

open Storybind.Except (Fails not_fails not_fails_ok)

/-- Whether a file is at a path. -/
def Workspace.holdsFile (w : Workspace) (p : Path) : Bool := decide ((w.isFile p).toOption = some true)

theorem Workspace.holdsFile_of_isFile {w : Workspace} {p : Path} {b : Bool} (h : w.isFile p = .ok b) :
    w.holdsFile p = b := by
  cases b <;> simp [holdsFile, h, Except.toOption]

/-- The file that was found. -/
def Found.path? : Found → Option Path
  | file path _ => some path
  | missing _ _ => none

namespace Lookup

variable {w : Workspace} {places : Lookup} {requested : String} {candidate : Path} {tried : List String}
  {found : Found}

/-- The directories of the places, in order. -/
def directories (w : Workspace) (places : Lookup) : List Path :=
  places.filterMap fun place => baseDirectory? w place.base

theorem directories_cons_none {place : Place} (h : baseDirectory? w place.base = none) :
    directories w (place :: places) = directories w places :=
  List.filterMap_cons_none h

theorem directories_cons_some {place : Place} {d : Path} (h : baseDirectory? w place.base = some d) :
    directories w (place :: places) = d :: directories w places :=
  List.filterMap_cons_some h

/-- Where the file of a path may be, in order; nowhere for an address of the web. -/
def spots (w : Workspace) (places : Lookup) (requested : String) : List Path :=
  if requested.isEmpty || isWebAddress requested then []
  else
    match w.expandHome? (Path.ofString requested) with
    | none => []
    | some p => if p.isAbsolute then [p] else (directories w places).map fun d => w.resolve (d ++ p)

/-- Whether one of the spots of a path holds a file. -/
def leadsToFile (w : Workspace) (places : Lookup) (requested : String) : Bool :=
  (spots w places requested).any w.holdsFile

theorem fullPath_eq_ok {p full : Path} (h : fullPath w p = .ok full) : full = w.resolve p := by
  unfold fullPath at h
  split at h
  · cases h
  · exact (Except.ok.inj h).symm

/-- Trying one path: it is what is found, or the rest of the look-up answers. -/
theorem path?_of_try {p : Path} {name : String} {others : Except LookupError Found} {rest : List Path}
    (h : (match w.isFile p with
      | .error e => Except.error (LookupError.file e)
      | .ok true => Except.ok (Found.file p name)
      | .ok false => others) = .ok found)
    (hothers : others = .ok found → found.path? = rest.find? w.holdsFile) :
    found.path? = (p :: rest).find? w.holdsFile := by
  rw [List.find?_cons]
  cases hfile : w.isFile p with
  | error e =>
    simp only [hfile] at h
    cases h
  | ok there =>
    rw [Workspace.holdsFile_of_isFile hfile]
    cases there with
    | true =>
      simp only [hfile] at h
      cases h
      rfl
    | false =>
      simp only [hfile] at h
      exact hothers h

theorem path?_of_search (h : search w requested candidate tried places = .ok found) :
    found.path? = ((directories w places).map fun d => w.resolve (d ++ candidate)).find? w.holdsFile := by
  induction places generalizing tried with
  | nil =>
    cases h
    rfl
  | cons place rest ih =>
    rw [search] at h
    cases hbase : baseDirectory? w place.base with
    | none =>
      rw [hbase] at h
      rw [directories_cons_none hbase]
      exact ih h
    | some base =>
      simp only [hbase] at h
      rw [directories_cons_some hbase]
      cases hfull : fullPath w (base ++ candidate) with
      | error e =>
        simp only [hfull] at h
        cases h
      | ok full =>
        obtain rfl := fullPath_eq_ok hfull
        simp only [hfull] at h
        exact path?_of_try h ih

/-- A look-up that is done gives the first spot that holds a file. -/
theorem path?_of_find (h : find w requested places = .ok found) :
    found.path? = (spots w places requested).find? w.holdsFile := by
  unfold find at h
  unfold spots
  split at h
  · next hnowhere =>
    rw [if_pos hnowhere]
    cases h
    rfl
  · next hsomewhere =>
    rw [if_neg hsomewhere]
    cases hhome : w.expandHome? (Path.ofString requested) with
    | none =>
      simp only [hhome] at h
      cases h
    | some p =>
      simp only [hhome] at h
      simp only
      cases habsolute : p.isAbsolute with
      | false =>
        rw [habsolute] at h
        exact path?_of_search h
      | true =>
        rw [habsolute] at h
        refine path?_of_try h fun hmissing => ?_
        cases hmissing
        rfl

theorem isSome_path?_of_find (h : find w requested places = .ok found) :
    found.path?.isSome = leadsToFile w places requested := by
  rw [path?_of_find h, leadsToFile, Bool.eq_iff_iff, List.find?_isSome, List.any_eq_true]

/-- What is found is the first spot that holds a file. -/
theorem find_eq_file {file : Path} (h : ¬Fails (find w requested places))
    (hfirst : (spots w places requested).find? w.holdsFile = some file) :
    ∃ name, find w requested places = .ok (.file file name) := by
  obtain ⟨found, hfound⟩ := not_fails.mp h
  rw [← path?_of_find hfound] at hfirst
  cases found with
  | file path name =>
    obtain rfl := Option.some.inj hfirst
    exact ⟨name, hfound⟩
  | missing requested tried => cases hfirst

theorem isEmpty_of_leadsToFile (h : leadsToFile w places requested = true) : requested.isEmpty = false := by
  cases hempty : requested.isEmpty with
  | false => rfl
  | true => simp [leadsToFile, spots, hempty] at h

/-! ### Look-ups that fail -/

/-- Whether a path leads through a name that is too long. -/
def TooLong (w : Workspace) (p : Path) : Prop := w.volume.locate w.cwd p = .error .nameTooLong

/-- Whether a path cannot be looked at as a spot: it holds a NUL character, or it is too long. -/
def Blocked (w : Workspace) (p : Path) : Prop :=
  '\x00' ∈ p.toText.toList ∨ TooLong w (w.resolve p)

/-- Why a look-up gives no answer. -/
inductive Unsearchable (w : Workspace) (places : Lookup) (requested : String) : Prop where
  | home (hsome : (requested.isEmpty || isWebAddress requested) = false)
      (hhome : w.expandHome? (Path.ofString requested) = none)
  | absolute {p : Path} (hsome : (requested.isEmpty || isWebAddress requested) = false)
      (hhome : w.expandHome? (Path.ofString requested) = some p) (habsolute : p.isAbsolute = true)
      (h : TooLong w p)
  | below {p d : Path} {before after : List Path}
      (hsome : (requested.isEmpty || isWebAddress requested) = false)
      (hhome : w.expandHome? (Path.ofString requested) = some p) (hrelative : p.isAbsolute = false)
      (hdirectories : directories w places = before ++ d :: after)
      (hmissed : ∀ b ∈ before, w.isFile (w.resolve (b ++ p)) = .ok false) (h : Blocked w (d ++ p))

theorem fails_isFile {p : Path} : Fails (w.isFile p) ↔ TooLong w p := Volume.fails_leadsTo

theorem fails_fullPath {p : Path} : Fails (fullPath w p) ↔ '\x00' ∈ p.toText.toList := by
  unfold fullPath
  split
  · next h => exact iff_of_true ⟨_, rfl⟩ (by simpa using h)
  · next h => exact iff_of_false (not_fails_ok _) (by simpa using h)

/-- Whether a look-up comes to a directory below which a path cannot be looked at: the ones before it do
not have the file. -/
def ComesToBlocked (w : Workspace) (directories : List Path) (candidate : Path) : Prop :=
  ∃ before d after, directories = before ++ d :: after ∧
    (∀ b ∈ before, w.isFile (w.resolve (b ++ candidate)) = .ok false) ∧ Blocked w (d ++ candidate)

theorem comesToBlocked_cons {d : Path} {ds : List Path} : ComesToBlocked w (d :: ds) candidate ↔
    Blocked w (d ++ candidate) ∨
      w.isFile (w.resolve (d ++ candidate)) = .ok false ∧ ComesToBlocked w ds candidate := by
  constructor
  · rintro ⟨before, x, after, hdirectories, hbefore, h⟩
    cases before with
    | nil =>
      obtain ⟨rfl, -⟩ := List.cons.inj hdirectories
      exact .inl h
    | cons b before =>
      obtain ⟨rfl, rfl⟩ := List.cons.inj hdirectories
      obtain ⟨hmissed, hbefore⟩ := List.forall_mem_cons.mp hbefore
      exact .inr ⟨hmissed, before, x, after, rfl, hbefore, h⟩
  · rintro (h | ⟨hmissed, before, x, after, rfl, hbefore, h⟩)
    · exact ⟨[], d, ds, rfl, nofun, h⟩
    · exact ⟨d :: before, x, after, rfl, List.forall_mem_cons.mpr ⟨hmissed, hbefore⟩, h⟩

theorem fails_search : Fails (search w requested candidate tried places) ↔
    ComesToBlocked w (directories w places) candidate := by
  induction places generalizing tried with
  | nil => simp [search, directories, ComesToBlocked, Fails]
  | cons place rest ih =>
    cases hbase : baseDirectory? w place.base with
    | none =>
      rw [directories_cons_none hbase, search, hbase]
      exact ih
    | some base =>
      rw [directories_cons_some hbase, comesToBlocked_cons, Blocked, ← fails_fullPath, ← fails_isFile,
        search, hbase]
      cases hfull : fullPath w (base ++ candidate) with
      | error e => simp [Fails, hfull]
      | ok full =>
        obtain rfl := fullPath_eq_ok hfull
        cases hfile : w.isFile (w.resolve (base ++ candidate)) with
        | error e => simp [Fails, hfull, hfile]
        | ok there =>
          cases there with
          | true => simp [Fails, hfull, hfile]
          | false => simpa [hfull, hfile, not_fails_ok] using ih

/-- Why a look-up fails, once it is known to what the home of the path leads. -/
theorem unsearchable_iff {p : Path} (hsome : (requested.isEmpty || isWebAddress requested) = false)
    (hhome : w.expandHome? (Path.ofString requested) = some p) :
    Unsearchable w places requested ↔
      if p.isAbsolute then TooLong w p else ComesToBlocked w (directories w places) p := by
  constructor
  · intro h
    cases h with
    | home _ hnone => cases hhome.symm.trans hnone
    | absolute _ hsame habsolute h =>
      cases hhome.symm.trans hsame
      rwa [if_pos habsolute]
    | below _ hsame hrelative hdirectories hmissed h =>
      cases hhome.symm.trans hsame
      rw [hrelative, if_neg Bool.false_ne_true]
      exact ⟨_, _, _, hdirectories, hmissed, h⟩
  · split
    · next habsolute => exact .absolute hsome hhome habsolute
    · next hrelative =>
      rintro ⟨before, d, after, hdirectories, hmissed, h⟩
      exact .below hsome hhome (Bool.eq_false_iff.mpr hrelative) hdirectories hmissed h

theorem Unsearchable.somewhere (h : Unsearchable w places requested) :
    (requested.isEmpty || isWebAddress requested) = false := by
  cases h with
  | home h => exact h
  | absolute h => exact h
  | below h => exact h

/-- A look-up gives an answer unless the path is below the home of somebody else or a spot that it comes
to cannot be looked at. -/
theorem fails_find : Fails (find w requested places) ↔ Unsearchable w places requested := by
  unfold find
  cases hsome : requested.isEmpty || isWebAddress requested with
  | true =>
    rw [if_pos rfl]
    exact iff_of_false (not_fails_ok _) fun h => absurd (hsome.symm.trans h.somewhere) (by decide)
  | false =>
    rw [if_neg Bool.false_ne_true]
    cases hhome : w.expandHome? (Path.ofString requested) with
    | none => exact iff_of_true ⟨_, rfl⟩ (.home hsome hhome)
    | some p =>
      rw [unsearchable_iff hsome hhome]
      simp only
      split
      · rw [← fails_isFile]
        cases hfile : w.isFile p with
        | error e => exact iff_of_true ⟨_, rfl⟩ ⟨e, rfl⟩
        | ok there => cases there <;> exact iff_of_false (not_fails_ok _) (not_fails_ok _)
      · exact fails_search

end Lookup
end Storybind
