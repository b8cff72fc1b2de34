import Mathlib.Tactic
import Storybind.Compile.Compiler
import Storybind.Proofs.Except
import Storybind.Proofs.Text.Utf8
import Storybind.Proofs.Volume

/-!
What a compile does to the files, whatever is refused on the way: the place of the page holds what it
held before or the whole page, at every moment, and no other file is changed or left behind.
-/

namespace Storybind

namespace Volume

variable {v u u' : Volume} {cwd p : Path}

/-- Whether all files of a volume are in another one as they were, and no more. -/
def SameFiles (v u : Volume) : Prop := ∀ m, u.fileAt m = v.fileAt m

theorem SameFiles.makeOne (h : SameFiles v u) (hmake : u.makeOne cwd p = .ok u') :
    SameFiles v u' := by
  obtain ⟨names, hnone, rfl⟩ := makeOne_ok hmake
  exact fun m => (fileAt_put_directory hnone m).trans (h m)

theorem start_makeDeep (v : Volume) (cwd : Path) (depth : Nat) (p : Path) :
    (v.makeDeep cwd depth p).start = v := by
  induction depth generalizing p with
  | zero =>
    unfold makeDeep
    split
    · rfl
    · split
      · rfl
      · split <;> rfl
  | succ depth ih =>
    unfold makeDeep
    split
    · rfl
    · split
      · rw [Course.start_andThen, ih]
      · split <;> rfl

/-- What making one directory keeps, making a directory with those above it keeps. -/
theorem keeps_makeDeep_of {P : Volume → Prop}
    (hmake : ∀ u u' p, P u → u.makeOne cwd p = .ok u' → P u') (hv : P v) (depth : Nat) (p : Path) :
    (v.makeDeep cwd depth p).Keeps P := by
  have hmade {v' : Volume} {p : Path} (h : v.makeOne cwd p = .ok v') : Course.Keeps P ⟨v, [v'], none⟩ :=
    Course.keeps_single (r := .ok v') fun u hu => hmake v u p hv (h.trans hu)
  have hnothing (e : Option FileError) : Course.Keeps P ⟨v, [], e⟩ :=
    fun u hu => absurd hu List.not_mem_nil
  induction depth generalizing p with
  | zero =>
    unfold makeDeep
    split
    · next h => exact hmade h
    · split
      · exact hnothing _
      · split
        · exact hnothing _
        · exact hnothing _
  | succ depth ih =>
    unfold makeDeep
    split
    · next h => exact hmade h
    · split
      -- the directory above is made first, and what that leaves is what this one is made in
      · refine Course.keeps_andThen (ih p.parent) fun _ => Course.keeps_single fun u' hu' => ?_
        have hfinal := Course.final_of_keeps (by rwa [start_makeDeep]) (ih p.parent)
        unfold Volume.makeMissing at hu'
        split at hu'
        · next hone =>
          cases hu'
          exact hmake _ _ p hfinal hone
        · split at hu'
          · cases hu'
            exact hfinal
          · cases hu'
      · split
        · exact hnothing _
        · exact hnothing _

/-- Making directories changes no file. -/
theorem keeps_makeDeep (v : Volume) (cwd : Path) (depth : Nat) (p : Path) :
    (v.makeDeep cwd depth p).Keeps (SameFiles v) :=
  keeps_makeDeep_of (fun _ _ _ h hmake => h.makeOne hmake) (fun _ => rfl) depth p

end Volume

namespace Output

open Volume

variable {r : Refusals} {cwd target temporary : Path} {content : Bytes} {v u : Volume}

theorem length_temporaryName (mark name : String) :
    (temporaryName mark name).length = name.length + mark.length + 6 := by
  simp only [temporaryName, String.length_append]
  have hdot : ".".length = 1 := rfl
  have hend : ".tmp".length = 4 := rfl
  omega

theorem exists_freeName (v : Volume) (directory : List String) (name : String) (tries : Nat)
    (mark : String) : ∃ mark', freeName v directory name tries mark = temporaryName mark' name := by
  induction tries generalizing mark with
  | zero => exact ⟨mark, rfl⟩
  | succ tries ih =>
    unfold freeName
    split
    · exact ih (mark ++ "_")
    · exact ⟨mark, rfl⟩

/-- The temporary file lies in the directory of the place, under another name. -/
theorem exists_temporaryName (mark : String) (cwd target : Path) (v : Volume) :
    ∃ mark', temporaryPath mark cwd target v =
      ⟨"/", (Path.resolve cwd target.parent).names ++ [temporaryName mark' target.name]⟩ := by
  obtain ⟨mark', hmark⟩ := exists_freeName v (Path.resolve cwd target.parent).names target.name
    maxTries mark
  refine ⟨mark', ?_⟩
  rw [temporaryPath, hmark]
  rfl

theorem plain_temporaryPath (mark : String) (cwd target : Path) (v : Volume) :
    ".." ∉ (temporaryPath mark cwd target v).names := by
  obtain ⟨mark', hpath⟩ := exists_temporaryName mark cwd target v
  rw [hpath]
  intro hmem
  rcases List.mem_append.mp hmem with hmem | hmem
  · exact Path.plain_resolve cwd target.parent hmem
  · have hlength := congrArg String.length (List.mem_singleton.mp hmem)
    rw [length_temporaryName] at hlength
    have htwo : "..".length = 2 := rfl
    omega

theorem temporaryPath_ne_nil (mark : String) (cwd target : Path) (v : Volume) :
    (temporaryPath mark cwd target v).names ≠ [] := by
  obtain ⟨mark', hpath⟩ := exists_temporaryName mark cwd target v
  rw [hpath]
  exact List.concat_ne_nil _ _

/-- No path denotes its own temporary file. -/
theorem temporaryPath_ne (hcwd : ".." ∉ cwd.names) (mark : String) (target : Path) (v : Volume) :
    (Path.resolve cwd target).names ≠ (temporaryPath mark cwd target v).names := by
  obtain ⟨mark', hpath⟩ := exists_temporaryName mark cwd target v
  rw [hpath]
  intro heq
  have hlength := congrArg List.length heq
  rcases List.eq_nil_or_concat target.names with hnil | ⟨above, name, hnames⟩
  -- a path without names is its own parent
  · have hparent : target.parent = target := by rw [Path.parent, hnil, List.dropLast_nil, ← hnil]
    rw [hparent] at hlength
    simp at hlength
  · have hplace : (Path.resolve cwd target).names =
        Path.descend (Path.resolve cwd target.parent).names name := by
      rw [Path.resolve_names hcwd, Path.resolve_names hcwd, Path.parent, hnames,
        List.concat_eq_append, List.dropLast_concat, List.foldl_append]
      rfl
    have hname : target.name = name := by simp [Path.name, hnames]
    rw [hplace, Path.descend] at heq hlength
    split at heq
    · next hup =>
      rw [if_pos hup, List.length_dropLast, List.length_append, List.length_singleton] at hlength
      omega
    · have hsame : [name] = [temporaryName mark' target.name] := List.append_cancel_left heq
      have hlength := congrArg String.length (List.cons.inj hsame).1
      rw [length_temporaryName, hname] at hlength
      omega

/-! ### Steps -/

theorem start_makeParent (r : Refusals) (cwd target : Path) (v : Volume) :
    (makeParent r cwd target v).start = v := by
  unfold makeParent
  split
  · exact start_makeDeep v cwd _ _
  · exact start_makeDeep v cwd _ _

theorem keeps_makeParent (r : Refusals) (cwd target : Path) (v : Volume) :
    (makeParent r cwd target v).Keeps (SameFiles v) := by
  have hmade := keeps_makeDeep v cwd target.parent.names.length target.parent
  unfold makeParent
  split
  · exact fun u hu => hmade u (List.mem_of_mem_take hu)
  · exact hmade

/-- A step that was not refused did what it runs. -/
theorem run_of_step {s : Step} {p : Path} {run : Except FileError Volume}
    (h : (step r s p v run).refusal = none) :
    ∃ v', run = .ok v' ∧ step r s p v run = .single v (.ok v') := by
  unfold step at h ⊢
  cases hr : r.refused s with
  | some fault =>
    rw [hr] at h
    cases h
  | none =>
    rw [hr] at h
    cases run with
    | error e => cases h
    | ok v' => exact ⟨v', rfl, rfl⟩

theorem final_of_step {s : Step} {p : Path} {run : Except FileError Volume} {e : FileError}
    (h : (step r s p v run).refusal = some e) : (step r s p v run).final = v :=
  Course.final_single_of_refusal h

theorem keeps_step {P : Volume → Prop} {s : Step} {p : Path} {run : Except FileError Volume}
    (h : ∀ v', run = .ok v' → P v') : (step r s p v run).Keeps P := by
  refine Course.keeps_single fun v' hv' => ?_
  split at hv'
  · cases hv'
  · exact h v' hv'

/-- What makes a path that of a temporary file for a place. -/
structure IsTemporary (cwd target temporary : Path) : Prop where
  anchor : temporary.anchor = "/"
  plain : ".." ∉ temporary.names
  nonempty : temporary.names ≠ []
  apart : (Path.resolve cwd target).names ≠ temporary.names

theorem isTemporary_temporaryPath (hcwd : ".." ∉ cwd.names) (mark : String) (target : Path)
    (v : Volume) : IsTemporary cwd target (temporaryPath mark cwd target v) where
  anchor := rfl
  plain := plain_temporaryPath mark cwd target v
  nonempty := temporaryPath_ne_nil mark cwd target v
  apart := temporaryPath_ne hcwd mark target v

theorem IsTemporary.locate_ok (ht : IsTemporary cwd target temporary) {names : List String}
    (hcwd : ".." ∉ cwd.names) (h : v.locate cwd temporary = .ok names) : names = temporary.names := by
  have hpath : temporary = ⟨"/", temporary.names⟩ := by
    rw [← ht.anchor]
  rw [Volume.locate_ok hcwd h, hpath, Path.resolve_of_plain ht.plain]

/-- Whether all files but one temporary one are as they were. -/
def Beside (w : Volume) (temporary : Path) (u : Volume) : Prop :=
  ∀ m, m ≠ temporary.names → u.fileAt m = w.fileAt m

/-- Whether a place holds content and all other files are as they were. -/
def Placed (w : Volume) (place : List String) (content : Bytes) (u : Volume) : Prop :=
  u.fileAt place = some content ∧ ∀ m, m ≠ place → u.fileAt m = w.fileAt m

variable {w : Volume}

theorem Beside.put (hn : temporary.names ≠ []) (h : Beside w temporary v) (bytes : Bytes) :
    Beside w temporary (v.put temporary.names (.file bytes)) := by
  intro m hm
  rw [fileAt_put_file hn, if_neg hm]
  exact h m hm

theorem Beside.erase (hn : temporary.names ≠ []) (h : Beside w temporary v)
    (hfree : w.fileAt temporary.names = none) : SameFiles w (v.erase temporary.names) := by
  intro m
  rw [fileAt_erase hn]
  split
  · next hm => rw [hm, hfree]
  · next hm => exact h m hm

theorem start_fill (r : Refusals) (temporary : Path) (content : Bytes) (v : Volume) :
    (fill r temporary content v).start = v := by
  unfold fill
  split <;> rfl

theorem keeps_fill (r : Refusals) (content : Bytes) (hn : temporary.names ≠ [])
    (h : Beside w temporary v) : (fill r temporary content v).Keeps (Beside w temporary) := by
  have hpieces : ∀ u ∈ (beginnings content 0 r.pieces).map
      (fun bytes => v.put temporary.names (.file bytes)), Beside w temporary u :=
    List.forall_mem_map.mpr fun bytes _ => h.put hn bytes
  unfold fill
  split
  · exact hpieces
  · intro u hu
    rcases List.mem_append.mp hu with hu | hu
    · exact hpieces u hu
    · rw [List.mem_singleton.mp hu]
      exact h.put hn content

/-- Content that was not refused is in the file as a whole. -/
theorem find?_fill (hn : temporary.names ≠ [])
    (h : (fill r temporary content v).refusal = none) :
    (fill r temporary content v).final.find? temporary.names = some (.file content) := by
  unfold fill at h ⊢
  split at h
  · cases h
  · simp only [Course.final, List.getLast?_append, List.getLast?_singleton, Option.some_or,
      Option.getD_some]
    rw [find?_put hn, if_pos rfl]

/-- A full temporary file that was moved makes the place hold its content. -/
theorem placed_of_replace (hcwd : ".." ∉ cwd.names) (ht : IsTemporary cwd target temporary)
    (hbeside : Beside w temporary v) (hfree : w.fileAt temporary.names = none)
    (hfull : v.find? temporary.names = some (.file content))
    (h : v.replace cwd temporary target = .ok u) :
    Placed w (Path.resolve cwd target).names content u ∧ u.read cwd target = .ok content := by
  obtain ⟨origin, e, destination, hentry, hl, hroom, rfl⟩ := replace_ok h
  obtain ⟨horigin, hfound⟩ := entry_ok hentry
  obtain rfl := ht.locate_ok hcwd horigin
  obtain rfl : Entry.file content = e := Option.some.inj (hfull.symm.trans hfound)
  have hplace := locate_ok hcwd hl
  have hne : destination ≠ [] := by
    rintro rfl
    exact hroom rfl
  refine ⟨⟨?_, fun m hm => ?_⟩, ?_⟩
  · rw [← hplace, fileAt_put_file hne, if_pos rfl]
  · rw [fileAt_put_file hne, if_neg (hplace ▸ hm), fileAt_erase ht.nonempty]
    split
    · next heq => rw [heq, hfree]
    · next htemporary => exact hbeside m htemporary
  -- neither file was a directory, so the path can be followed as before
  · refine read_of_locate (locate_mono (fun m hm => ?_) hl) (by rw [find?_put hne, if_pos rfl])
    have hm' : m ≠ destination := fun heq => hroom (heq ▸ hm)
    have hm'' : m ≠ temporary.names := by
      rintro rfl
      rw [hfull] at hm
      cases hm
    rw [find?_put hne, if_neg hm', find?_erase ht.nonempty, if_neg hm'']
    exact hm

/-! ### Saving -/

/-- What a save does to the files: the place holds what it held or all of the content at every moment;
after a save that was not refused it holds the content and all else is as it was, after one that was
refused everything is. -/
structure Saves (w : Volume) (cwd target : Path) (content : Bytes) (c : Course) : Prop where
  keeps : c.Keeps fun u =>
    u.fileAt (Path.resolve cwd target).names = w.fileAt (Path.resolve cwd target).names ∨
      u.fileAt (Path.resolve cwd target).names = some content
  placed : c.refusal = none →
    Placed w (Path.resolve cwd target).names content c.final ∧ c.final.read cwd target = .ok content
  untouched : ∀ e, c.refusal = some e → SameFiles w c.final

theorem Saves.andThen {c : Course} {next : Volume → Course}
    (hkeeps : c.Keeps fun u =>
      u.fileAt (Path.resolve cwd target).names = w.fileAt (Path.resolve cwd target).names)
    (huntouched : ∀ e, c.refusal = some e → SameFiles w c.final)
    (hstart : (next c.final).start = c.final)
    (hnext : c.refusal = none → Saves w cwd target content (next c.final)) :
    Saves w cwd target content (c.andThen next) := by
  have hwhole := Course.keeps_andThen (fun u hu => Or.inl (hkeeps u hu)) fun hnone =>
    (hnext hnone).keeps
  cases hr : c.refusal with
  | some e =>
    rw [Course.andThen_of_refusal hr] at hwhole ⊢
    refine ⟨hwhole, fun hnone => ?_, huntouched⟩
    rw [hr] at hnone
    cases hnone
  | none =>
    have hsaves := hnext hr
    refine ⟨hwhole, fun hnone => ?_, fun e he => ?_⟩
    · rw [Course.final_andThen hr hstart]
      exact hsaves.placed ((Course.refusal_andThen hr).symm.trans hnone)
    · rw [Course.final_andThen hr hstart]
      exact hsaves.untouched e ((Course.refusal_andThen hr).symm.trans he)

theorem start_deliver (r : Refusals) (cwd temporary target : Path) (content : Bytes) (v : Volume) :
    (deliver r cwd temporary target content v).start = v := by
  unfold deliver tidied
  split
  · exact (Course.start_andThen _ _).trans (start_fill r temporary content v)
  · exact (Course.start_andThen _ _).trans (start_fill r temporary content v)

/-- The content is in its place, or all that was done was done to the temporary file. -/
theorem beside_or_placed (hcwd : ".." ∉ cwd.names) (ht : IsTemporary cwd target temporary)
    (hbeside : Beside w temporary v) (hfree : w.fileAt temporary.names = none) {course : Course}
    (hcourse : course = (fill r temporary content v).andThen fun u =>
      step r .move temporary u (u.replace cwd temporary target)) :
    (course.Keeps fun u => Beside w temporary u ∨ Placed w (Path.resolve cwd target).names content u) ∧
      (course.refusal = none → Placed w (Path.resolve cwd target).names content course.final ∧
        course.final.read cwd target = .ok content) ∧
      ∀ e, course.refusal = some e → Beside w temporary course.final := by
  subst hcourse
  have hfilled := keeps_fill r content ht.nonempty hbeside
  have hfinal : Beside w temporary (fill r temporary content v).final :=
    Course.final_of_keeps (by rwa [start_fill]) hfilled
  have hmoved {u : Volume} (hnone : (fill r temporary content v).refusal = none)
      (hreplace : (fill r temporary content v).final.replace cwd temporary target = .ok u) :=
    placed_of_replace hcwd ht hfinal hfree (find?_fill ht.nonempty hnone) hreplace
  -- the move comes last, so every moment before it has only the temporary file changed
  refine ⟨Course.keeps_andThen (fun u hu => Or.inl (hfilled u hu)) fun hnone =>
    keeps_step fun u hreplace => Or.inr (hmoved hnone hreplace).1, fun hnone => ?_, fun e he => ?_⟩
  · cases hr : (fill r temporary content v).refusal with
    | some e =>
      rw [Course.andThen_of_refusal hr, hr] at hnone
      cases hnone
    | none =>
      rw [Course.refusal_andThen hr] at hnone
      obtain ⟨u, hreplace, hstep⟩ := run_of_step hnone
      rw [Course.final_andThen hr (Course.start_single _ _), hstep]
      exact hmoved hr hreplace
  · cases hr : (fill r temporary content v).refusal with
    | some e =>
      rw [Course.andThen_of_refusal hr]
      exact hfinal
    | none =>
      rw [Course.refusal_andThen hr] at he
      rw [Course.final_andThen hr (Course.start_single _ _), final_of_step he]
      exact hfinal

/-- From an open temporary file on, the content comes to its place or the file is removed. -/
theorem saves_deliver (hcwd : ".." ∉ cwd.names) (ht : IsTemporary cwd target temporary)
    (hbeside : Beside w temporary v) (hfree : w.fileAt temporary.names = none) :
    Saves w cwd target content (deliver r cwd temporary target content v) := by
  obtain ⟨hkeeps, hplaced, hrefused⟩ := beside_or_placed (r := r) hcwd ht hbeside hfree rfl
  have hwhole : ∀ u, Beside w temporary u ∨ Placed w (Path.resolve cwd target).names content u →
      u.fileAt (Path.resolve cwd target).names = w.fileAt (Path.resolve cwd target).names ∨
        u.fileAt (Path.resolve cwd target).names = some content :=
    fun u hu => hu.imp (fun h => h _ ht.apart) fun h => h.1
  unfold deliver tidied
  split
  · next e he =>
    have hclean := (hrefused e he).erase ht.nonempty hfree
    refine ⟨fun u hu => ?_, fun hnone => ?_, fun _ _ => ?_⟩
    · rcases List.mem_append.mp hu with hu | hu
      · exact hwhole u (hkeeps u hu)
      · rw [List.mem_singleton.mp hu]
        exact Or.inl (hclean _)
    · exact absurd (he.symm.trans hnone) (Option.some_ne_none e)
    · simp only [Course.final, List.getLast?_append, List.getLast?_singleton, Option.some_or,
        Option.getD_some]
      exact hclean
  · next hnone =>
    refine ⟨fun u hu => hwhole u (hkeeps u hu), hplaced, fun e he => ?_⟩
    rw [hnone] at he
    cases he

/-- A free name is made a temporary file, and no other file is touched. -/
theorem beside_of_create (hcwd : ".." ∉ cwd.names) (ht : IsTemporary cwd target temporary)
    (hsame : SameFiles w v) (h : v.create cwd temporary = .ok u) :
    Beside w temporary u ∧ w.fileAt temporary.names = none := by
  obtain ⟨names, hl, hnone, rfl⟩ := create_ok h
  obtain rfl := ht.locate_ok hcwd hl
  have hbeside : Beside w temporary v := fun m _ => hsame m
  exact ⟨hbeside.put ht.nonempty [], (hsame _).symm.trans (fileAt_of_find?_none hnone)⟩

theorem start_save (r : Refusals) (mark : String) (v : Volume) (cwd target : Path)
    (content : Bytes) : (save r mark v cwd target content).start = v :=
  (Course.start_andThen _ _).trans (start_makeParent r cwd target v)

/-- A save does to the files what it should, whatever the file system refuses. -/
theorem saves_save (hcwd : ".." ∉ cwd.names) (r : Refusals) (mark : String) (w : Volume)
    (target : Path) (content : Bytes) :
    Saves w cwd target content (save r mark w cwd target content) := by
  have hmade := keeps_makeParent r cwd target w
  have hsame : SameFiles w (makeParent r cwd target w).final :=
    Course.final_of_keeps (by rw [start_makeParent]; exact fun _ => rfl) hmade
  refine Saves.andThen (fun u hu => hmade u hu _) (fun _ _ => hsame)
    ((Course.start_andThen _ _).trans (Course.start_single _ _)) fun _ => ?_
  generalize (makeParent r cwd target w).final = v at hsame
  have ht := isTemporary_temporaryPath hcwd mark target v
  refine Saves.andThen (keeps_step fun u hcreate => ?_) (fun e he => ?_)
    (start_deliver r cwd _ target content _) fun hnone => ?_
  · exact (beside_of_create hcwd ht hsame hcreate).1 _ ht.apart
  · rw [final_of_step he]
    exact hsame
  · obtain ⟨u, hcreate, hstep⟩ := run_of_step hnone
    obtain ⟨hbeside, hfree⟩ := beside_of_create hcwd ht hsame hcreate
    rw [hstep]
    exact saves_deliver hcwd ht hbeside hfree

end Output

namespace Compiler

variable {c : Compiler} {r : Request} {world : World}

/-- The names of the file that a request asks for. -/
def placeOf (r : Request) (world : World) : List String :=
  (Path.resolve world.workspace.cwd (Path.ofString r.output)).names

/-- The volumes that a compile goes through, from the one it finds on. -/
def moments (c : Compiler) (r : Request) (world : World) : List Volume :=
  world.workspace.volume :: match c.compose r world with
    | (.error _, _) => []
    | (.ok page, _) => (c.save r world.workspace page).later

theorem size_of_finish {w : Workspace} {d : Draft} {bundle : Bundle} {page : Finished}
    (h : c.finish w r d bundle = .ok page) :
    page.stats.size = (Text.encode page.document.text).length := by
  unfold finish at h
  obtain ⟨style, -, h⟩ := Except.bind_eq_ok.mp h
  obtain ⟨script, -, h⟩ := Except.bind_eq_ok.mp h
  obtain ⟨document, -, h⟩ := Except.bind_eq_ok.mp h
  cases h
  exact (Text.length_encode document.text).symm

/-- The size that is told of a page is the length of its encoded text. -/
theorem size_of_compose {page : Finished} (h : (c.compose r world).1 = .ok page) :
    page.stats.size = (Text.encode page.document.text).length := by
  unfold compose at h
  simp only at h
  split at h
  · cases h
  · split at h
    · cases h
    · next d _ _ bundle _ _ =>
      cases hfinish : c.finish world.workspace r d bundle with
      | error e =>
        rw [hfinish] at h
        cases h
      | ok finished =>
        rw [hfinish] at h
        cases h
        exact size_of_finish hfinish

/-- What a compile does to the files. The place is where the output path leads. -/
structure SavesWhole (c : Compiler) (r : Request) (world : World) : Prop where
  /-- The last volume it goes through is the one it leaves. -/
  ends : (c.moments r world).getLast? = some (c.compile r world).2.workspace.volume
  leads : ∀ (v : Volume) (b : Bytes),
    v.read world.workspace.cwd (Path.ofString r.output) = .ok b → v.fileAt (placeOf r world) = some b
  whole : ∀ v ∈ c.moments r world,
    v.fileAt (placeOf r world) = world.workspace.volume.fileAt (placeOf r world) ∨
      ∃ page, (c.compose r world).1 = .ok page ∧
        v.fileAt (placeOf r world) = some (Text.encode page.document.text)
  saved : ∀ result stats, (c.compile r world).1 = .ok result → result.outcome = .ok stats →
    ∃ page, (c.compose r world).1 = .ok page ∧
      (c.compile r world).2.workspace.volume.fileAt (placeOf r world) =
        some (Text.encode page.document.text) ∧
      (c.compile r world).2.workspace.volume.read world.workspace.cwd (Path.ofString r.output) =
        .ok (Text.encode page.document.text) ∧
      stats.size = (Text.encode page.document.text).length
  unsaved : (∀ result stats, (c.compile r world).1 = .ok result → result.outcome ≠ .ok stats) →
    (c.compile r world).2.workspace.volume.fileAt (placeOf r world) =
      world.workspace.volume.fileAt (placeOf r world)
  others : ∀ names, names ≠ placeOf r world →
    (c.compile r world).2.workspace.volume.fileAt names = world.workspace.volume.fileAt names

/-- A compile that gives no page leaves all files alone. -/
theorem savesWhole_of_stop {stop : Stop} {fetch : Fetch.State}
    (hcwd : ".." ∉ world.workspace.cwd.names) (h : c.compose r world = (.error stop, fetch)) :
    SavesWhole c r world := by
  have hmoments : c.moments r world = [world.workspace.volume] := by
    rw [moments, h]
  have hvolume : (c.compile r world).2.workspace.volume = world.workspace.volume := by
    unfold compile
    rw [h]
    cases stop <;> rfl
  have hfailed : ∀ result stats, (c.compile r world).1 = .ok result → result.outcome ≠ .ok stats := by
    intro result stats hresult hok
    unfold compile at hresult
    rw [h] at hresult
    cases stop with
    | failure f =>
      cases hresult
      cases hok
    | breakdown b => cases hresult
  refine ⟨by rw [hmoments, hvolume]; rfl, fun v b hread => Volume.fileAt_of_read hcwd hread,
    fun v hv => ?_, fun result stats hresult hok => absurd hok (hfailed result stats hresult),
    fun _ => by rw [hvolume], fun names _ => by rw [hvolume]⟩
  rw [hmoments] at hv
  rw [List.mem_singleton.mp hv]
  exact Or.inl rfl

theorem volume_compile {page : Finished} {fetch : Fetch.State}
    (h : c.compose r world = (.ok page, fetch)) :
    (c.compile r world).2.workspace.volume = (c.save r world.workspace page).final := by
  unfold compile
  rw [h]
  simp only
  split
  · rfl
  · split <;> rfl

/-- A compile tells of success exactly if nothing of the save was refused. -/
theorem succeeds_iff {page : Finished} {fetch : Fetch.State}
    (h : c.compose r world = (.ok page, fetch)) (stats : Stats) :
    (∃ result, (c.compile r world).1 = .ok result ∧ result.outcome = .ok stats) ↔
      (c.save r world.workspace page).refusal = none ∧ stats = page.stats := by
  unfold compile
  rw [h]
  simp only
  cases (c.save r world.workspace page).refusal with
  | none => simp [eq_comm]
  | some e =>
    simp only
    split <;> simp

/-- A compile that gives a page saves it, or leaves all files alone. -/
theorem savesWhole_of_page {page : Finished} {fetch : Fetch.State}
    (hcwd : ".." ∉ world.workspace.cwd.names) (h : c.compose r world = (.ok page, fetch)) :
    SavesWhole c r world := by
  have hpage : (c.compose r world).1 = .ok page := by rw [h]
  have hmoments : c.moments r world =
      world.workspace.volume :: (c.save r world.workspace page).later := by
    rw [moments, h]
  have hvolume := volume_compile h
  have hstart : (c.save r world.workspace page).start = world.workspace.volume :=
    Output.start_save _ _ _ _ _ _
  have hsaves : Output.Saves world.workspace.volume world.workspace.cwd (Path.ofString r.output)
      (Text.encode page.document.text) (c.save r world.workspace page) :=
    Output.saves_save hcwd c.refusals c.mark world.workspace.volume _ _
  have hplaced := hsaves.placed
  rw [← hvolume] at hplaced
  -- a save that is refused leaves the files as they were, whatever it was refused for
  have huntouched (e : FileError) (he : (c.save r world.workspace page).refusal = some e) :
      Volume.SameFiles world.workspace.volume (c.compile r world).2.workspace.volume :=
    hvolume ▸ hsaves.untouched e he
  refine ⟨?_, fun v b hread => Volume.fileAt_of_read hcwd hread, fun v hv => ?_,
    fun result stats hresult hok => ?_, fun hfailed => ?_, fun names hnames => ?_⟩
  · rw [hmoments, hvolume, Course.final, hstart, List.getLast?_cons]
  · rw [hmoments] at hv
    rcases List.mem_cons.mp hv with rfl | hv
    · exact Or.inl rfl
    · exact (hsaves.keeps v hv).imp id fun hnew => ⟨page, hpage, hnew⟩
  · obtain ⟨hnone, rfl⟩ := (succeeds_iff h stats).mp ⟨result, hresult, hok⟩
    obtain ⟨hput, hread⟩ := hplaced hnone
    exact ⟨page, hpage, hput.1, hread, size_of_compose hpage⟩
  · cases hr : (c.save r world.workspace page).refusal with
    | some e => exact huntouched e hr _
    | none =>
      obtain ⟨result, hresult, hok⟩ := (succeeds_iff h page.stats).mpr ⟨hr, rfl⟩
      exact absurd hok (hfailed result page.stats hresult)
  · cases hr : (c.save r world.workspace page).refusal with
    | some e => exact huntouched e hr names
    | none => exact (hplaced hr).1.2 names hnames

/-- Whatever a compile finds and whatever is refused, its page is saved whole or not at all, and no
other file is changed or left behind. -/
theorem saves_whole (c : Compiler) (r : Request) (world : World)
    (hcwd : ".." ∉ world.workspace.cwd.names) : SavesWhole c r world := by
  cases h : c.compose r world with
  | mk composed fetch =>
    cases composed with
    | error stop => exact savesWhole_of_stop hcwd h
    | ok page => exact savesWhole_of_page hcwd h

/-- A player of nothing but a template. -/
def booth (refusals : Output.Refusals) : Compiler :=
  ⟨⟨20, 1, 1, 8, 4, true, "page", "https://cdn.example/", "", "base", "info", "/", false⟩, [],
    ⟨some (Path.ofString "/player"), none, "base"⟩, .usual, fun text => .ok text, 0, "now",
    "mark", refusals⟩

/-- A room with an older page. -/
def room : World :=
  let entries := [(["player"], .directory), (["player", "assets"], .directory),
    (["player", "assets", "template.html"], .file [104, 105]), (["page.html"], .file [111])]
  ⟨⟨⟨entries⟩, ⟨"/", []⟩, ⟨"/", []⟩, ⟨"/", []⟩⟩, ⟨.empty, .empty true⟩⟩

def order : Request :=
  ⟨"scenes: \x7b\x7d\n", "page.html", none, none, none, false, none, none, .empty, []⟩

/-- A disk that is full after one byte. -/
def full : Output.Refusals :=
  ⟨fun s => if s = .content then some .noSpace else none, 0, [1]⟩

theorem saves_whole_room :
    ".." ∉ room.workspace.cwd.names ∧ SavesWhole (booth Output.noRefusals) order room ∧
      ((booth Output.noRefusals).compile order room).2.workspace.volume.fileAt ["page.html"] =
        some [104, 105] ∧
      SavesWhole (booth full) order room ∧
      ((booth full).compile order room).2.workspace.volume.fileAt ["page.html"] = some [111] := by
  have hcwd : ".." ∉ room.workspace.cwd.names := List.not_mem_nil
  exact ⟨hcwd, saves_whole _ order room hcwd, by decide +kernel, saves_whole _ order room hcwd,
    by decide +kernel⟩

end Compiler
end Storybind
