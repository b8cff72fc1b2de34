import Mathlib.Tactic
import Storybind.Proofs.Distinct
import Storybind.Volume

/-!
What operations do to the files of a volume, and what they leave alone. A file is told by its names from
the root; a path that can be followed leads to the names of the absolute path that it denotes.
-/

namespace Storybind

namespace Path

/-- Following one name from names that are resolved already. -/
def descend (done : List String) (n : String) : List String :=
  if n = ".." then done.dropLast else done ++ [n]

theorem normalNames_eq (names : List String) : normalNames names = names.foldl descend [] := rfl

theorem foldl_descend_of_plain {names : List String} (h : ".." ∉ names) (done : List String) :
    names.foldl descend done = done ++ names := by
  induction names generalizing done with
  | nil => exact (List.append_nil done).symm
  | cons n rest ih =>
    have hn : n ≠ ".." := fun heq => h (heq ▸ List.mem_cons_self)
    have hrest : ".." ∉ rest := fun hmem => h (List.mem_cons_of_mem n hmem)
    rw [List.foldl_cons, ih hrest, descend, if_neg hn, List.append_assoc]
    rfl

theorem plain_foldl_descend {done : List String} (hdone : ".." ∉ done) (names : List String) :
    ".." ∉ names.foldl descend done := by
  induction names generalizing done with
  | nil => exact hdone
  | cons n rest ih =>
    refine ih ?_
    unfold descend
    split
    · exact fun hmem => hdone (List.mem_of_mem_dropLast hmem)
    · next hn =>
      intro hmem
      rcases List.mem_append.mp hmem with hmem | hmem
      · exact hdone hmem
      · exact hn (List.mem_singleton.mp hmem).symm

theorem plain_resolve (cwd p : Path) : ".." ∉ (resolve cwd p).names :=
  plain_foldl_descend (by simp) _

theorem resolve_of_absolute {p : Path} (habsolute : p.isAbsolute = true) (hplain : ".." ∉ p.names)
    (cwd : Path) : (resolve cwd p).names = p.names := by
  have happend : append cwd p = p := if_pos habsolute
  change (append cwd p).names.foldl descend [] = p.names
  rw [happend, foldl_descend_of_plain hplain, List.nil_append]

theorem resolve_of_plain {names : List String} (h : ".." ∉ names) (cwd : Path) :
    (resolve cwd ⟨"/", names⟩).names = names := resolve_of_absolute rfl h cwd

/-- An absolute path is denoted by its own names, a relative one by those after the directory's. -/
theorem resolve_names {cwd : Path} (hcwd : ".." ∉ cwd.names) (p : Path) :
    (resolve cwd p).names = p.names.foldl descend (if p.isAbsolute then [] else cwd.names) := by
  change (normalNames (append cwd p).names) = _
  rw [normalNames_eq, append]
  split
  · rfl
  · rw [List.foldl_append, foldl_descend_of_plain hcwd, List.nil_append]

theorem child_of_relative {p : Path} {s : String} (h : (ofString s).isAbsolute = false) :
    p.child s = ⟨p.anchor, p.names ++ (ofString s).names⟩ := by
  have hrelative : ¬(ofString s).isAbsolute = true := by simp [h]
  exact if_neg hrelative

/-- What is read from below a directory lies below the directory. -/
theorem resolve_child {cwd p : Path} {s : String} (hcwd : ".." ∉ cwd.names)
    (habsolute : (ofString s).isAbsolute = false) (hplain : ".." ∉ (ofString s).names) :
    (resolve cwd (p.child s)).names = (resolve cwd p).names ++ (ofString s).names := by
  have hsame : (p.child s).isAbsolute = p.isAbsolute := by
    rw [child_of_relative habsolute]
    rfl
  rw [resolve_names hcwd, resolve_names hcwd, hsame, child_of_relative habsolute, List.foldl_append,
    foldl_descend_of_plain hplain]

end Path

namespace Volume

variable {v v' : Volume} {cwd p : Path} {names m : List String}

/-- The content of the file with given names, if there is a file. -/
def fileAt (v : Volume) (names : List String) : Option Bytes :=
  (v.find? names).bind fun
    | .file b => some b
    | .directory => none

/-! ### Entries -/

theorem lookup_map_replace (e : Entry) (m : List String) (entries : List (List String × Entry)) :
    (entries.map fun x => if x.1 = names then (names, e) else x).lookup m =
      if m = names then (entries.lookup m).map fun _ => e else entries.lookup m := by
  induction entries with
  | nil => simp
  | cons x rest ih =>
    obtain ⟨k, d⟩ := x
    rw [List.map_cons]
    by_cases hk : k = names
    · subst hk
      rw [if_pos rfl]
      by_cases hm : m = k
      · subst hm
        simp
      · rw [if_neg hm] at ih ⊢
        rw [List.lookup_cons, List.lookup_cons, beq_eq_false_iff_ne.mpr hm, ih]
    · rw [if_neg hk]
      by_cases hm : m = k
      · subst hm
        rw [if_neg hk, List.lookup_cons_self, List.lookup_cons_self]
      · rw [List.lookup_cons, List.lookup_cons, beq_eq_false_iff_ne.mpr hm, ih]

theorem lookup_put (e : Entry) (v : Volume) :
    (v.put names e).entries.lookup m = if m = names then some e else v.entries.lookup m := by
  unfold put
  split
  · next hthere =>
    rw [lookup_map_replace]
    split
    · next heq =>
      obtain ⟨d, hd⟩ := Option.isSome_iff_exists.mp hthere
      rw [heq, hd]
      rfl
    · rfl
  · next hnone =>
    have hnone : v.entries.lookup names = none := Option.not_isSome_iff_eq_none.mp hnone
    simp only [List.lookup_append]
    split
    · next heq => rw [heq, hnone, List.lookup_cons_self, Option.none_or]
    · next hne =>
      rw [List.lookup_cons, beq_eq_false_iff_ne.mpr hne, List.lookup_nil, Option.or_none]

@[simp] theorem find?_nil (v : Volume) : v.find? [] = some .directory := rfl

theorem find?_of_ne_nil (h : names ≠ []) (v : Volume) : v.find? names = v.entries.lookup names := by
  rw [find?, if_neg (by simpa using h)]

theorem find?_put (hn : names ≠ []) (e : Entry) (v : Volume) (m : List String) :
    (v.put names e).find? m = if m = names then some e else v.find? m := by
  by_cases hm : m = []
  · subst hm
    rw [if_neg (Ne.symm hn), find?_nil, find?_nil]
  · rw [find?_of_ne_nil hm, find?_of_ne_nil hm, lookup_put]

theorem find?_erase (hn : names ≠ []) (v : Volume) (m : List String) :
    (v.erase names).find? m = if m = names then none else v.find? m := by
  by_cases hm : m = []
  · subst hm
    rw [if_neg (Ne.symm hn), find?_nil, find?_nil]
  · rw [find?_of_ne_nil hm, find?_of_ne_nil hm, erase]
    induction v.entries with
    | nil => simp
    | cons x rest ih =>
      obtain ⟨k, d⟩ := x
      rw [List.filter_cons, List.lookup_cons]
      by_cases hk : k = names
      · subst hk
        rw [if_neg (by simp), ih]
        split
        · rfl
        · next hne => rw [beq_eq_false_iff_ne.mpr hne]
      · rw [if_pos (by simpa using hk), List.lookup_cons, ih]
        by_cases hmk : m = k
        · subst hmk
          rw [beq_self_eq_true, if_neg hk, if_neg hk]
        · rw [beq_eq_false_iff_ne.mpr hmk]

theorem fileAt_put_file (hn : names ≠ []) (b : Bytes) (v : Volume) (m : List String) :
    (v.put names (.file b)).fileAt m = if m = names then some b else v.fileAt m := by
  rw [fileAt, find?_put hn]
  split <;> rfl

theorem fileAt_erase (hn : names ≠ []) (v : Volume) (m : List String) :
    (v.erase names).fileAt m = if m = names then none else v.fileAt m := by
  rw [fileAt, find?_erase hn]
  split <;> rfl

theorem fileAt_of_find?_none (h : v.find? names = none) : v.fileAt names = none := by
  rw [fileAt, h, Option.bind_none]

theorem find?_of_fileAt {b : Bytes} (h : v.fileAt m = some b) : v.find? m = some (.file b) := by
  obtain ⟨e, he, hb⟩ := Option.bind_eq_some_iff.mp h
  cases e with
  | directory => cases hb
  | file content =>
    cases hb
    exact he

/-- A new directory takes the place of no file. -/
theorem fileAt_put_directory (h : v.find? names = none) (m : List String) :
    (v.put names .directory).fileAt m = v.fileAt m := by
  have hn : names ≠ [] := by
    rintro rfl
    cases h
  rw [fileAt, find?_put hn]
  split
  · next heq =>
    rw [heq, fileAt_of_find?_none h]
    rfl
  · rfl

/-! ### Where paths lead -/

theorem follow_ok {here r : List String} (h : v.follow here names = .ok r) :
    r = names.foldl Path.descend here := by
  induction names generalizing here with
  | nil => exact (Except.ok.inj h).symm
  | cons n rest ih =>
    rw [follow] at h
    split at h
    · cases h
    · cases h
    · rw [List.foldl_cons, Path.descend]
      split at h
      · next hn => rw [if_pos hn, ih h]
      · next hn =>
        split at h
        · cases h
        · rw [if_neg hn, ih h]

/-- A path that can be followed leads to the names of the absolute path that it denotes. -/
theorem locate_ok (hcwd : ".." ∉ cwd.names) (h : v.locate cwd p = .ok names) :
    names = (Path.resolve cwd p).names := by
  unfold locate at h
  split at h
  · cases h
  · split at h
    · cases h
    · rw [follow_ok h, Path.resolve_names hcwd]

theorem entry_ok {e : Entry} (h : v.entry cwd p = .ok (names, e)) :
    v.locate cwd p = .ok names ∧ v.find? names = some e := by
  unfold entry at h
  cases hl : v.locate cwd p with
  | error f =>
    rw [hl] at h
    cases h
  | ok found =>
    rw [hl] at h
    cases hf : v.find? found with
    | none =>
      simp only [bind, Except.bind, hf] at h
      cases h
    | some d =>
      simp only [bind, Except.bind, hf] at h
      cases h
      exact ⟨rfl, hf⟩

/-- What can be read through a path is the content of the file that it denotes. -/
theorem fileAt_of_read {b : Bytes} (hcwd : ".." ∉ cwd.names) (h : v.read cwd p = .ok b) :
    v.fileAt (Path.resolve cwd p).names = some b := by
  unfold read at h
  split at h
  · next found content hentry =>
    obtain ⟨hl, hf⟩ := entry_ok hentry
    cases h
    rw [← locate_ok hcwd hl, fileAt, hf, Option.bind_some]
  · cases h
  · cases h

theorem follow_mono {here r : List String}
    (hdirectories : ∀ m, v.find? m = some .directory → v'.find? m = some .directory)
    (h : v.follow here names = .ok r) : v'.follow here names = .ok r := by
  induction names generalizing here with
  | nil => exact h
  | cons n rest ih =>
    rw [follow] at h ⊢
    split at h
    · cases h
    · cases h
    · next hhere =>
      rw [hdirectories here hhere]
      simp only
      split at h
      · next hn =>
        rw [if_pos hn]
        exact ih h
      · next hn =>
        rw [if_neg hn]
        split at h
        · cases h
        · next hshort =>
          rw [if_neg hshort]
          exact ih h

/-- A path can still be followed where no directory is lost. -/
theorem locate_mono
    (hdirectories : ∀ m, v.find? m = some .directory → v'.find? m = some .directory)
    (h : v.locate cwd p = .ok names) : v'.locate cwd p = .ok names := by
  unfold locate at h ⊢
  split at h
  · cases h
  · next hnul =>
    rw [if_neg hnul]
    split at h
    · cases h
    · next hshort =>
      rw [if_neg hshort]
      exact follow_mono hdirectories h

/-- Where plain names cannot be followed, one of the entries on the way is no directory. -/
theorem exists_of_follow_error {here : List String} {f : FileFault} (hplain : ".." ∉ names)
    (h : v.follow here names = .error f) (hf : f ≠ .nameTooLong) :
    ∃ done rest, names = done ++ rest ∧ rest ≠ [] ∧ v.find? (here ++ done) ≠ some .directory := by
  induction names generalizing here with
  | nil => cases h
  | cons n names ih =>
    obtain ⟨hn, hplain⟩ := not_or.mp (mt List.mem_cons.mpr hplain)
    rw [follow] at h
    split at h
    · next hnone => exact ⟨[], n :: names, rfl, List.cons_ne_nil n names, by simp [hnone]⟩
    · next hfile => exact ⟨[], n :: names, rfl, List.cons_ne_nil n names, by simp [hfile]⟩
    · rw [if_neg (Ne.symm hn)] at h
      split at h
      · cases h
        exact absurd rfl hf
      · obtain ⟨done, rest, rfl, hne, hfind⟩ := ih hplain h
        exact ⟨n :: done, rest, rfl, hne, by simpa using hfind⟩

theorem entry_of_locate {e : Entry} (hl : v.locate cwd p = .ok names) (hf : v.find? names = some e) :
    v.entry cwd p = .ok (names, e) := by
  simp only [entry, hl, bind, Except.bind, hf]
  rfl

theorem read_of_locate {b : Bytes} (hl : v.locate cwd p = .ok names)
    (hf : v.find? names = some (.file b)) : v.read cwd p = .ok b := by
  rw [read, entry_of_locate hl hf]

/-! ### Operations -/

theorem makeOne_ok (h : v.makeOne cwd p = .ok v') :
    ∃ names, v.find? names = none ∧ v' = v.put names .directory := by
  unfold makeOne at h
  split at h
  · cases h
  · next names _ =>
    split at h
    · cases h
    · next hnone =>
      split at h
      · cases h
      · cases h
      · exact ⟨names, hnone, (Except.ok.inj h).symm⟩

theorem create_ok (h : v.create cwd p = .ok v') :
    ∃ names, v.locate cwd p = .ok names ∧ v.find? names = none ∧ v' = v.put names (.file []) := by
  unfold create at h
  split at h
  · cases h
  · next names hl =>
    split at h
    · cases h
    · next hnone _ => exact ⟨names, hl, hnone, (Except.ok.inj h).symm⟩
    · cases h
    · cases h

theorem write_ok {content : Bytes} (h : v.write cwd p content = .ok v') :
    ∃ names, v.locate cwd p = .ok names ∧ v.find? names ≠ some .directory ∧
      v' = v.put names (.file content) := by
  unfold write at h
  split at h
  · cases h
  · next names hl =>
    split at h
    · cases h
    · next hold => exact ⟨names, hl, by simp [hold], (Except.ok.inj h).symm⟩
    · next hnone _ => exact ⟨names, hl, by simp [hnone], (Except.ok.inj h).symm⟩
    · cases h
    · cases h

/-- A file that was moved is gone from where it was, and no directory made room for it. -/
theorem replace_ok {source target : Path} (h : v.replace cwd source target = .ok v') :
    ∃ origin e destination, v.entry cwd source = .ok (origin, e) ∧
      v.locate cwd target = .ok destination ∧ v.find? destination ≠ some .directory ∧
      v' = (v.erase origin).put destination e := by
  unfold replace at h
  split at h
  · cases h
  · cases h
  · next origin e destination hentry hl =>
    split at h
    · cases h
    · split at h
      · cases h
      · next hfree => exact ⟨origin, e, destination, hentry, hl, hfree, (Except.ok.inj h).symm⟩

/-! ### Directories -/

/-- Every directory above an entry is an entry. -/
def Sound (v : Volume) : Prop :=
  ∀ m n, v.find? (m ++ [n]) ≠ none → v.find? m = some .directory

theorem Sound.above (h : v.Sound) {below : List String} (hne : below ≠ [])
    (hthere : v.find? (m ++ below) ≠ none) : v.find? m = some .directory := by
  induction below using List.reverseRecOn with
  | nil => exact absurd rfl hne
  | append_singleton names n ih =>
    have habove : v.find? (m ++ names) = some .directory :=
      h (m ++ names) n (by rwa [List.append_assoc])
    cases names with
    | nil => rwa [List.append_nil] at habove
    | cons a names => exact ih (List.cons_ne_nil a names) (by simp [habove])

theorem sound_of_all
    (h : (v.entries.all fun x => v.find? x.1.dropLast = some .directory) = true) : v.Sound := by
  intro m n hthere
  obtain ⟨e, he⟩ := Option.ne_none_iff_exists'.mp hthere
  rw [find?_of_ne_nil (List.concat_ne_nil n m)] at he
  have habove := List.all_eq_true.mp h _ (Distinct.mem_of_lookup he)
  simpa using habove

/-! ### Growing -/

/-- Whether a volume has the directories of another one and, but for those at some places, its
files. -/
structure Grown (places : List (List String)) (v u : Volume) : Prop where
  directories : ∀ m, v.find? m = some .directory → u.find? m = some .directory
  files : ∀ m, m ∉ places → u.fileAt m = v.fileAt m

variable {u w : Volume} {places more : List (List String)}

theorem Grown.refl (v : Volume) : Grown places v v := ⟨fun _ h => h, fun _ _ => rfl⟩

theorem Grown.mono (h : Grown places v u) (hp : places ⊆ more) : Grown more v u where
  directories := h.directories
  files m hm := h.files m fun hmem => hm (hp hmem)

theorem Grown.trans (h : Grown places v u) (h' : Grown places u w) : Grown places v w where
  directories m hm := h'.directories m (h.directories m hm)
  files m hm := (h'.files m hm).trans (h.files m hm)

theorem Grown.put_directory (h : v.find? names = none) :
    Grown places v (v.put names .directory) where
  directories m hm := by
    have hne : names ≠ [] := by
      rintro rfl
      cases h
    rw [find?_put hne]
    split
    · rfl
    · exact hm
  files m _ := fileAt_put_directory h m

theorem Grown.put_file (content : Bytes) (h : v.find? names ≠ some .directory) :
    Grown [names] v (v.put names (.file content)) := by
  have hne : names ≠ [] := fun heq => h (heq ▸ find?_nil v)
  constructor
  · intro m hm
    have hother : m ≠ names := fun heq => h (heq ▸ hm)
    rw [find?_put hne, if_neg hother]
    exact hm
  · intro m hm
    rw [fileAt_put_file hne, if_neg fun heq => hm (List.mem_singleton.mpr heq)]

end Volume

/-! ### Courses -/

namespace Course

/-- Whether every volume on the way has a property. -/
def Keeps (P : Volume → Prop) (c : Course) : Prop := ∀ v ∈ c.later, P v

variable {P : Volume → Prop} {c : Course} {next : Volume → Course}

theorem final_of_keeps (hstart : P c.start) (h : c.Keeps P) : P c.final := by
  unfold final
  cases hlast : c.later.getLast? with
  | none => exact hstart
  | some v => exact h v (List.mem_of_getLast? hlast)

theorem keeps_single {v : Volume} {r : Except FileError Volume} (h : ∀ v', r = .ok v' → P v') :
    (single v r).Keeps P := by
  cases r with
  | error e => exact fun v hv => absurd hv List.not_mem_nil
  | ok v' =>
    intro u hu
    obtain rfl := List.mem_singleton.mp hu
    exact h u rfl

theorem keeps_andThen (h : c.Keeps P) (hnext : c.refusal = none → (next c.final).Keeps P) :
    (c.andThen next).Keeps P := by
  unfold andThen
  split
  · exact h
  · next hnone =>
    intro u hu
    rcases List.mem_append.mp hu with hu | hu
    · exact h u hu
    · exact hnext hnone u hu

theorem start_andThen (c : Course) (next : Volume → Course) :
    (c.andThen next).start = c.start := by
  unfold andThen
  split <;> rfl

theorem start_single (v : Volume) (r : Except FileError Volume) : (single v r).start = v := by
  cases r <;> rfl

theorem final_single_of_refusal {v : Volume} {r : Except FileError Volume} {e : FileError}
    (h : (single v r).refusal = some e) : (single v r).final = v := by
  cases r with
  | error e' => rfl
  | ok v' => cases h

theorem andThen_of_refusal {e : FileError} (h : c.refusal = some e) : c.andThen next = c := by
  simp only [andThen, h]

theorem refusal_andThen (h : c.refusal = none) :
    (c.andThen next).refusal = (next c.final).refusal := by
  simp only [andThen, h]

theorem final_andThen (h : c.refusal = none) (hnext : (next c.final).start = c.final) :
    (c.andThen next).final = (next c.final).final := by
  simp only [andThen, h]
  generalize next c.final = d at hnext
  obtain ⟨start, later, refusal⟩ := d
  subst hnext
  cases later with
  | nil => simp [final]
  | cons v rest => simp [final, List.getLast?_append]

end Course
end Storybind
