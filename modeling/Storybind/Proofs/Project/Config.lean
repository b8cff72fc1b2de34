import Mathlib.Tactic
import Storybind.Project.Config
import Storybind.Proofs.Compile.Files
import Storybind.Proofs.Except
import Storybind.Proofs.Form

/-!
Loading a project file. A file that is unreadable, no JSON or no project is passed over with a
warning; one that is used gives its fields as they are read, its paths made absolute. Only a file
that is not UTF-8, a path with a NUL character and a number of too many digits are answered by
nothing.
-/

namespace Storybind.Config

open Storybind.Except (Fails not_fails not_fails_ok fails_map)

variable {w : Workspace} {file : Option String} {directory p : Path} {text : String} {s t : String}

/-! ### Reading the fields -/

/-- What is wrong with a value that is no project are flaws. -/
theorem flawsOnly_ofValue (v : Value) : (ofValue v).FlawsOnly := by
  have htext : ∀ v, (Form.text v).FlawsOnly := Form.flawsOnly_text
  have hpath : ∀ v, (Form.optional Form.text v).FlawsOnly := Form.flawsOnly_optional htext
  have hbool : ∀ v, (Form.bool v).FlawsOnly := Form.flawsOnly_bool
  have hlist : ∀ v, (Form.list Form.any v).FlawsOnly := Form.flawsOnly_list Form.flawsOnly_ok
  unfold ofValue Form.record
  split
  · refine Form.FlawsOnly.seq ?_ (Form.flawsOnly_withDefault Form.flawsOnly_textMapping _ _)
    refine Form.FlawsOnly.seq ?_ (Form.flawsOnly_withDefault hlist _ _)
    refine Form.FlawsOnly.seq ?_ (Form.flawsOnly_withDefault hbool _ _)
    refine Form.FlawsOnly.seq ?_ (Form.flawsOnly_withDefault hpath _ _)
    refine Form.FlawsOnly.seq ?_ (Form.flawsOnly_withDefault hpath _ _)
    refine Form.FlawsOnly.seq ?_ (Form.flawsOnly_withDefault htext _ _)
    refine Form.FlawsOnly.seq ?_ (Form.flawsOnly_withDefault hpath _ _)
    refine Form.FlawsOnly.seq ?_ (Form.flawsOnly_withDefault htext _ _)
    refine Form.FlawsOnly.seq ?_ (Form.flawsOnly_withDefault htext _ _)
    refine Form.FlawsOnly.seq ?_ (Form.flawsOnly_withDefault htext _ _)
    refine Form.FlawsOnly.seq ?_ (Form.flawsOnly_maybe htext "description")
    refine Form.FlawsOnly.seq ?_ (Form.flawsOnly_maybe htext "author")
    exact (Form.flawsOnly_withDefault htext _ _).map _
  · exact Form.flawsOnly_flaw _

/-! ### Placing paths -/

/-- What becomes of a path in a project file: empty and absolute ones stay, others are joined to the
directory of the file. -/
inductive Settled (directory : Path) (s : String) : String → Prop
  | empty (h : s = "") : Settled directory s s
  | absolute (h : (Path.ofString s).isAbsolute = true) : Settled directory s s
  | joined (hne : s ≠ "") (h : (Path.ofString s).isAbsolute = false) :
      Settled directory s (directory ++ Path.ofString s).toText

theorem settled_placed (directory : Path) (s : String) : Settled directory s (placed directory s) := by
  unfold placed
  by_cases hempty : s = ""
  · rw [if_pos (by simp [hempty])]
    exact .empty hempty
  · by_cases habsolute : (Path.ofString s).isAbsolute = true
    · rw [if_pos (by simp [habsolute])]
      exact .absolute habsolute
    · rw [if_neg (by simp [hempty, habsolute])]
      exact .joined hempty (by simpa using habsolute)

/-- A text that starts with a slash is an absolute path. -/
theorem isAbsolute_ofString {cs : List Char} (h : s.toList = '/' :: cs) :
    (Path.ofString s).isAbsolute = true := by
  have hslashes : (s.toList.takeWhile (· = '/')).length ≠ 0 := by
    rw [h, List.takeWhile_cons_of_pos (by decide), List.length_cons]
    exact Nat.succ_ne_zero _
  simp only [Path.isAbsolute, Path.ofString, if_neg hslashes]
  split <;> decide

theorem isAbsolute_toText (h : p.anchor = "/") : (Path.ofString p.toText).isAbsolute = true := by
  have htext : p.toText = "/" ++ Text.join "/" p.names := by simp [Path.toText, h]
  have hslash : p.toText.toList = '/' :: (Text.join "/" p.names).toList := by
    rw [htext, String.toList_append]
    rfl
  exact isAbsolute_ofString hslash

/-- In a directory with a full path a path that is placed is empty or absolute. -/
theorem Settled.isAbsolute (h : Settled directory s t) (hdirectory : directory.anchor = "/") :
    t = "" ∨ (Path.ofString t).isAbsolute = true := by
  cases h with
  | empty h => exact .inl h
  | absolute h => exact .inr h
  | joined _ hrelative =>
    have hanchor : (directory ++ Path.ofString s).anchor = "/" := by
      change (Path.append directory (Path.ofString s)).anchor = "/"
      rw [Path.append, hrelative, if_neg Bool.false_ne_true]
      exact hdirectory
    exact .inr (isAbsolute_toText hanchor)

/-- The paths of a project. -/
def paths (c : Config) : List String :=
  [c.input, c.output] ++ c.assets.toList ++ c.customStyle.toList ++ c.customScript.toList

/-- A project as it is read, with its paths placed in a directory. -/
structure PlacedFrom (directory : Path) (read placed : Config) : Prop where
  input : Settled directory read.input placed.input
  output : Settled directory read.output placed.output
  assets : Option.Rel (Settled directory) read.assets placed.assets
  customStyle : Option.Rel (Settled directory) read.customStyle placed.customStyle
  customScript : Option.Rel (Settled directory) read.customScript placed.customScript
  others : placed = { read with
    input := placed.input, output := placed.output, assets := placed.assets,
    customStyle := placed.customStyle, customScript := placed.customScript }

theorem rel_settled (o : Option String) :
    Option.Rel (Settled directory) o (o.map (placed directory)) := by
  cases o with
  | none => exact .none
  | some s => exact .some (settled_placed directory s)

theorem placedFrom_placeAt (directory : Path) (c : Config) :
    PlacedFrom directory c (placeAt directory c) where
  input := settled_placed directory c.input
  output := settled_placed directory c.output
  assets := rel_settled c.assets
  customStyle := rel_settled c.customStyle
  customScript := rel_settled c.customScript
  others := rfl

theorem isAbsolute_of_rel {o o' : Option String} (h : Option.Rel (Settled directory) o o')
    (hdirectory : directory.anchor = "/") :
    ∀ t ∈ o'.toList, t = "" ∨ (Path.ofString t).isAbsolute = true := by
  cases h with
  | none => exact nofun
  | some h =>
    intro t ht
    obtain rfl := List.mem_singleton.mp ht
    exact h.isAbsolute hdirectory

theorem PlacedFrom.isAbsolute {c d : Config} (h : PlacedFrom directory c d)
    (hdirectory : directory.anchor = "/") :
    ∀ t ∈ d.paths, t = "" ∨ (Path.ofString t).isAbsolute = true := by
  simp only [paths, List.forall_mem_append, List.forall_mem_cons]
  exact ⟨⟨⟨⟨h.input.isAbsolute hdirectory, h.output.isAbsolute hdirectory, nofun⟩,
    isAbsolute_of_rel h.assets hdirectory⟩, isAbsolute_of_rel h.customStyle hdirectory⟩,
    isAbsolute_of_rel h.customScript hdirectory⟩

/-! ### Loading -/

/-- The project file that is loaded: the one at a path, if one is given, else the one in a
directory. -/
def target (w : Workspace) (file : Option String) (directory : Path) : Except FileError (Option Path) :=
  match file.filter fun f => !f.isEmpty with
  | some f => .ok (some (Path.ofString f))
  | none => find w directory

/-- Why a project file is answered by nothing. -/
inductive Unanswered (w : Workspace) (p : Path) : Prop where
  | garbled (h : w.Garbled p)
  | digits {text : String} {n : Nat} (htext : w.readText p = .ok text)
      (h : Json.read text = .error (.tooManyDigits n))

/-- Why a project file is passed over. -/
inductive PassedOver (w : Workspace) (p : Path) : Complaint → Prop
  | unreadable {e : FileError} (h : w.readText p = .error (.file e)) (hsystem : e.isSystem = true) :
      PassedOver w p (.file e)
  | notJson {text : String} {fault : Json.ReadFault} {position : Nat}
      (htext : w.readText p = .ok text) (h : Json.read text = .error (.fault fault position)) :
      PassedOver w p (.json text (.fault fault position))
  | invalid {text : String} {v : Value} {fs : List Flaw} (htext : w.readText p = .ok text)
      (hread : Json.read text = .ok v) (h : (ofValue v).outcome = .error (.flaws fs)) :
      PassedOver w p (.flaws fs)

/-- What loading a project file comes to: the defaults with one warning, or the project of the file
with its paths placed beside it. -/
inductive Answer (w : Workspace) (p : Path) : Loaded → Prop
  | defaults {complaint : Complaint} (h : PassedOver w p complaint) :
      Answer w p ⟨standard, none, ["Could not load project config " ++ p.toText ++ ": " ++
        complaint.message ++ "; using defaults"]⟩
  | project {text : String} {v : Value} {c d : Config} (htext : w.readText p = .ok text)
      (hread : Json.read text = .ok v) (hc : (ofValue v).outcome = .ok c)
      (h : PlacedFrom (w.resolve p).parent c d) : Answer w p ⟨d, some p, []⟩

theorem fails_ofText : Fails (ofText text) ↔ ∃ n, Json.read text = .error (.tooManyDigits n) := by
  unfold ofText
  cases hread : Json.read text with
  | error e =>
    cases e with
    | tooManyDigits n => exact iff_of_true ⟨_, rfl⟩ ⟨n, rfl⟩
    | fault f position => exact iff_of_false (not_fails_ok _) (by simp)
  | ok v =>
    refine iff_of_false ?_ (by simp)
    cases houtcome : (ofValue v).outcome with
    | ok c => simp [Fails, houtcome]
    | error e =>
      obtain ⟨fs, rfl⟩ := flawsOnly_ofValue v e houtcome
      simp [Fails, houtcome]

theorem fails_ofFile : Fails (ofFile w p) ↔ Unanswered w p := by
  have hgarbled : w.Garbled p ↔ _ := Workspace.readText_eq_garbled.symm
  unfold ofFile
  cases htext : w.readText p with
  | error e =>
    have hunanswered : Unanswered w p ↔ w.Garbled p := by
      constructor
      · intro h
        cases h with
        | garbled h => exact h
        | digits hsame => cases htext.symm.trans hsame
      · exact .garbled
    rw [hunanswered, hgarbled, htext]
    cases e with
    | file e => cases hsystem : e.isSystem <;> simp [Fails, Workspace.isMissing, hsystem]
    | utf8 e => simp [Fails, Workspace.isMissing]
  | ok text =>
    have hsound : ¬w.Garbled p := by
      rw [hgarbled, htext]
      simp
    simp only [fails_map, fails_ofText]
    constructor
    · exact fun ⟨n, h⟩ => .digits htext h
    · intro h
      cases h with
      | garbled h => exact absurd h hsound
      | digits hsame h =>
        cases htext.symm.trans hsame
        exact ⟨_, h⟩

/-- What is made of the content of a project file. -/
def loadedOf (p : Path) : Except Complaint Config → Loaded
  | .ok c => ⟨c, some p, []⟩
  | .error complaint =>
    ⟨standard, none, ["Could not load project config " ++ p.toText ++ ": " ++ complaint.message ++
      "; using defaults"]⟩

theorem load_of_target (hpath : target w file directory = .ok (some p)) :
    load w file directory = (ofFile w p).map (loadedOf p) := by
  have hrest : (ofFile w p >>= fun r =>
      match r with
      | .ok c => pure ⟨c, some p, []⟩
      | .error complaint =>
        pure ⟨standard, none, ["Could not load project config " ++ p.toText ++ ": " ++
          complaint.message ++ "; using defaults"]⟩) = (ofFile w p).map (loadedOf p) := by
    cases ofFile w p with
    | error e => rfl
    | ok r => cases r <;> rfl
  rw [← hrest]
  unfold load
  unfold target at hpath
  cases hfile : file.filter (fun f => !f.isEmpty) with
  | some f =>
    rw [hfile] at hpath
    cases hpath
    rfl
  | none =>
    rw [hfile] at hpath
    simp only [hpath, Except.mapError]
    rfl

theorem answer_of_ofFile {r : Except Complaint Config} (h : ofFile w p = .ok r) :
    Answer w p (loadedOf p r) := by
  unfold ofFile at h
  split at h
  · next e htext =>
    split at h
    · next hsystem =>
      cases h
      exact .defaults (.unreadable htext hsystem)
    · cases h
  · cases h
  · next text htext =>
    obtain ⟨outcome, houtcome, rfl⟩ := Except.map_eq_ok.mp h
    unfold ofText at houtcome
    split at houtcome
    · cases houtcome
    · next e hne hread =>
      cases houtcome
      cases e with
      | tooManyDigits n => exact absurd rfl (hne n)
      | fault f position => exact .defaults (.notJson htext hread)
    · next v hread =>
      split at houtcome
      · next c hc =>
        cases houtcome
        exact .project htext hread hc (placedFrom_placeAt (w.resolve p).parent c)
      · next fs hfs =>
        cases houtcome
        exact .defaults (.invalid htext hread hfs)
      · cases houtcome

/-- A project file is answered unless it is not UTF-8, its path holds a NUL character or a number in
it has too many digits. A file that cannot be used is passed over with one warning; the fields of one
that is used are as they were read, but for the paths, which are absolute or empty. -/
theorem load_answers (hpath : target w file directory = .ok (some p)) :
    ((∃ loaded, load w file directory = .ok loaded) ↔ ¬Unanswered w p) ∧
    ∀ loaded, load w file directory = .ok loaded → Answer w p loaded ∧
      (loaded.file = some p → ∀ t ∈ loaded.config.paths, t = "" ∨ (Path.ofString t).isAbsolute = true) := by
  rw [load_of_target hpath]
  constructor
  · rw [← fails_ofFile, ← not_fails, fails_map]
  · intro loaded h
    obtain ⟨r, hr, rfl⟩ := Except.map_eq_ok.mp h
    have hanswer := answer_of_ofFile hr
    refine ⟨hanswer, fun hfile => ?_⟩
    generalize loadedOf p r = loaded at hanswer hfile
    cases hanswer with
    | defaults _ => cases hfile
    | project _ _ _ hplaced => exact hplaced.isAbsolute rfl

/-- A directory with a project file of some bytes. -/
def shelf (content : Bytes) : Workspace :=
  ⟨⟨[(["p"], .directory), (["p", "vn-config.json"], .file content)]⟩, ⟨"/", ["p"]⟩, ⟨"/", []⟩,
    ⟨"/", []⟩⟩

/-- The text `{"input": "a.yaml"}`. -/
def shelved : Bytes := Text.encode "\x7b\x22input\x22: \x22a.yaml\x22\x7d"

theorem load_answers_shelf :
    target (shelf shelved) (some "vn-config.json") ⟨"", []⟩ = .ok (some ⟨"", ["vn-config.json"]⟩) ∧
    ∃ loaded, load (shelf shelved) (some "vn-config.json") ⟨"", []⟩ = .ok loaded ∧
      loaded.file = some ⟨"", ["vn-config.json"]⟩ ∧ loaded.config.input = "/p/a.yaml" ∧
      ∀ t ∈ loaded.config.paths, t = "" ∨ (Path.ofString t).isAbsolute = true := by
  have hpath : target (shelf shelved) (some "vn-config.json") ⟨"", []⟩ =
      .ok (some ⟨"", ["vn-config.json"]⟩) := by decide +kernel
  have hloads : (load (shelf shelved) (some "vn-config.json") ⟨"", []⟩).toOption.any (fun loaded =>
      loaded.file == some ⟨"", ["vn-config.json"]⟩ && loaded.config.input == "/p/a.yaml") = true := by
    decide +kernel
  cases hload : load (shelf shelved) (some "vn-config.json") ⟨"", []⟩ with
  | error e =>
    rw [hload] at hloads
    cases hloads
  | ok loaded =>
    rw [hload] at hloads
    simp only [Except.toOption, Option.any_some, Bool.and_eq_true, beq_iff_eq] at hloads
    obtain ⟨hfile, hinput⟩ := hloads
    exact ⟨hpath, loaded, rfl, hfile, hinput, ((load_answers hpath).2 loaded hload).2 hfile⟩

/-- A project file can be answered by nothing. -/
theorem not_answered_shelf :
    ¬∀ (w : Workspace) (file : Option String) (directory p : Path),
      target w file directory = .ok (some p) → ∃ loaded, load w file directory = .ok loaded := by
  intro h
  obtain ⟨loaded, hloaded⟩ := h (shelf [255]) (some "vn-config.json") ⟨"", []⟩
    ⟨"", ["vn-config.json"]⟩ (by decide +kernel)
  have hnone : (load (shelf [255]) (some "vn-config.json") ⟨"", []⟩).isOk = false := by decide +kernel
  rw [hloaded] at hnone
  cases hnone

end Storybind.Config
