import Mathlib.Tactic
import Storybind.Proofs.Except
import Storybind.Volume

/-!
Where looking for a file fails, and where reading a text breaks down: a path may hold a name that is too
long or a NUL character, and the content of a file may not be text.
-/

namespace Storybind

open Storybind.Except (Fails)

namespace Volume

variable {v : Volume} {cwd p : Path}

theorem entry_eq_error {f : FileFault} (hf : f ≠ .notFound) :
    v.entry cwd p = .error f ↔ v.locate cwd p = .error f := by
  unfold entry
  cases v.locate cwd p with
  | error g => simp [bind, Except.bind]
  | ok names =>
    cases hfind : v.find? names with
    | some e => simp [bind, Except.bind, pure, Except.pure, hfind]
    | none => simp [bind, Except.bind, hfind, hf.symm]

theorem follow_ne_nulInName {here names : List String} :
    v.follow here names ≠ .error .nulInName := by
  induction names generalizing here with
  | nil => simp [follow]
  | cons n rest ih =>
    unfold follow
    cases v.find? here with
    | none => simp
    | some e =>
      cases e with
      | file b => simp
      | directory =>
        simp only
        split
        · exact ih
        · split
          · simp
          · exact ih

theorem locate_eq_nulInName : v.locate cwd p = .error .nulInName ↔ '\x00' ∈ p.toText.toList := by
  unfold locate
  by_cases hnul : '\x00' ∈ p.toText.toList
  · simp [hnul]
  · simp only [List.contains_eq_mem, hnul, decide_false, Bool.false_eq_true, if_false, iff_false]
    split
    · simp
    · exact follow_ne_nulInName

/-- Looking for an entry fails exactly where a name is too long. -/
theorem fails_leadsTo {kind : Entry → Bool} :
    Fails (v.leadsTo cwd p kind) ↔ v.locate cwd p = .error .nameTooLong := by
  rw [← entry_eq_error (by decide)]
  unfold leadsTo
  cases v.entry cwd p with
  | ok found => simp [Fails]
  | error f => cases f <;> simp [Fails]

theorem read_eq_nulInName :
    (∃ e, v.read cwd p = .error e ∧ e.isSystem = false) ↔ '\x00' ∈ p.toText.toList := by
  rw [← locate_eq_nulInName (v := v), ← entry_eq_error (by decide)]
  unfold read
  cases v.entry cwd p with
  | ok found =>
    obtain ⟨names, entry⟩ := found
    cases entry with
    | file b => simp
    | directory => simp [FileError.isSystem]
  | error f => simp [FileError.isSystem]

end Volume

namespace Workspace

variable {w : Workspace} {p : Path}

/-- Whether a path holds a NUL character or leads to a file that is not UTF-8. -/
inductive Garbled (w : Workspace) (p : Path) : Prop where
  | path (h : '\x00' ∈ p.toText.toList)
  | content {bytes : Bytes} {e : Text.Utf8Error} (hread : w.read p = .ok bytes)
      (h : Text.decodeFile bytes = .error e)

/-- Whether a text file gives no text for a reason of the file system. -/
def isMissing : TextFileError → Bool
  | .file e => e.isSystem
  | .utf8 _ => false

theorem readText_eq_file :
    (∃ e, w.readText p = .error (.file e) ∧ e.isSystem = false) ↔ '\x00' ∈ p.toText.toList := by
  have hread : (∃ e, w.read p = .error e ∧ e.isSystem = false) ↔ _ := Volume.read_eq_nulInName
  rw [← hread]
  unfold readText
  cases w.read p with
  | error f => simp
  | ok bytes => cases h : Text.decodeFile bytes <;> simp [h]

theorem readText_eq_utf8 :
    (∃ e, w.readText p = .error (.utf8 e)) ↔
      ∃ bytes e, w.read p = .ok bytes ∧ Text.decodeFile bytes = .error e := by
  unfold readText
  cases w.read p with
  | error f => simp
  | ok bytes => cases h : Text.decodeFile bytes <;> simp [h]

theorem readText_eq_garbled :
    (∃ e, w.readText p = .error e ∧ isMissing e = false) ↔ w.Garbled p := by
  constructor
  · rintro ⟨e, he, hkind⟩
    cases e with
    | file e => exact .path (readText_eq_file.mp ⟨e, he, hkind⟩)
    | utf8 e =>
      obtain ⟨bytes, e, hread, h⟩ := readText_eq_utf8.mp ⟨e, he⟩
      exact .content hread h
  · intro h
    cases h with
    | path h =>
      obtain ⟨e, he, hkind⟩ := readText_eq_file.mpr h
      exact ⟨.file e, he, hkind⟩
    | content hread h =>
      obtain ⟨e, he⟩ := readText_eq_utf8.mpr ⟨_, _, hread, h⟩
      exact ⟨.utf8 e, he, rfl⟩

end Workspace

end Storybind
