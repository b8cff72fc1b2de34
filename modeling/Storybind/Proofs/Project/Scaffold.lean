import Mathlib.Tactic
import Storybind.Project.Scaffold
import Storybind.Proofs.Compile.Saving
import Storybind.Proofs.Json.Guarded
import Storybind.Proofs.Json.Reading
import Storybind.Proofs.Json.Writing
import Storybind.Proofs.Path
import Storybind.Proofs.Project.Config
import Storybind.Proofs.Text.Naming
import Storybind.Proofs.Text.Utf8
import Storybind.Proofs.Volume

/-!
Making a project. Where it is refused before anything is written nothing is changed; where it is made,
its files are as they were written, no other file is touched, and its project file loads as the project
that was asked for. Files that were there before can only be lost where the directory is given by a
path that goes up from a directory that is missing.
-/

namespace Storybind

theorem Volume.grown_makeDirectory (v : Volume) (cwd p : Path) :
    Grown [] v (v.makeDirectory cwd p).final := by
  have hkeeps : (v.makeDirectory cwd p).Keeps (Grown [] v) := by
    refine keeps_makeDeep_of (fun u u' p h hmake => ?_) (Grown.refl v) _ p
    obtain ⟨names, hnone, rfl⟩ := makeOne_ok hmake
    exact h.trans (Grown.put_directory hnone)
  refine Course.final_of_keeps ?_ hkeeps
  rw [makeDirectory, start_makeDeep]
  exact Grown.refl v

namespace Project

open Volume (Grown)

variable {cwd root : Path} {v u : Volume}

/-- The names of a file of a project. -/
def place (cwd root : Path) (name : String) : List String :=
  (Path.resolve cwd (root.child name)).names

theorem grown_makeFolders (cwd root : Path) (names : List String) (v : Volume) :
    Grown [] v (makeFolders cwd root names v).2 := by
  induction names generalizing v with
  | nil => exact Grown.refl v
  | cons name rest ih =>
    have hmade := Volume.grown_makeDirectory v cwd (root.child name)
    rw [makeFolders]
    generalize v.makeDirectory cwd (root.child name) = made at hmade
    split
    · exact hmade
    · exact hmade.trans (ih _)

/-- What writing one file comes to: its directories are made, and perhaps it is put in its place. -/
theorem writeFile_cases (hcwd : ".." ∉ cwd.names) (root : Path) (name text : String) (v : Volume) :
    (∃ e made, writeFile cwd root name text v = (some e, made) ∧ Grown [] v made) ∨
      ∃ u, writeFile cwd root name text v = (none, u) ∧ Grown [place cwd root name] v u ∧
        u.locate cwd (root.child name) = .ok (place cwd root name) ∧
        u.fileAt (place cwd root name) = some (Text.encode text) := by
  have hmade := Volume.grown_makeDirectory v cwd (root.child name).parent
  simp only [writeFile]
  generalize v.makeDirectory cwd (root.child name).parent = made at hmade
  cases made.refusal with
  | some e => exact .inl ⟨e, made.final, rfl, hmade⟩
  | none =>
    cases hwrite : made.final.write cwd (root.child name) (Text.encode text) with
    | error e => exact .inl ⟨e, made.final, rfl, hmade⟩
    | ok u =>
      obtain ⟨names, hl, hfree, rfl⟩ := Volume.write_ok hwrite
      obtain rfl : names = place cwd root name := Volume.locate_ok hcwd hl
      have hput := Grown.put_file (Text.encode text) hfree
      have hne : place cwd root name ≠ [] := fun heq => hfree (heq ▸ Volume.find?_nil made.final)
      refine .inr ⟨_, rfl, (hmade.mono (List.nil_subset _)).trans hput,
        Volume.locate_mono hput.directories hl, ?_⟩
      rw [Volume.fileAt_put_file hne, if_pos rfl]

/-- Whatever is refused, nothing but the files that are to be written is written. -/
theorem grown_writeFiles (hcwd : ".." ∉ cwd.names) (root : Path) (files : List (String × String))
    (v : Volume) :
    Grown (files.map fun f => place cwd root f.1) v (writeFiles cwd root files v).2 := by
  induction files generalizing v with
  | nil => exact Grown.refl v
  | cons f rest ih =>
    rw [writeFiles, List.map_cons]
    obtain ⟨e, made, heq, hmade⟩ | ⟨u, heq, hput, -⟩ := writeFile_cases hcwd root f.1 f.2 v
    · rw [heq]
      exact hmade.mono (List.nil_subset _)
    · rw [heq]
      refine (hput.mono ?_).trans ((ih u).mono (List.subset_cons_self _ _))
      simp

/-- Files that were all written are where they belong, as they were written. -/
theorem written_writeFiles (hcwd : ".." ∉ cwd.names) {files : List (String × String)}
    (hdistinct : (files.map fun f => place cwd root f.1).Nodup)
    (h : writeFiles cwd root files v = (none, u)) :
    ∀ f ∈ files, u.locate cwd (root.child f.1) = .ok (place cwd root f.1) ∧
      u.fileAt (place cwd root f.1) = some (Text.encode f.2) := by
  induction files generalizing v with
  | nil => exact nofun
  | cons f rest ih =>
    obtain ⟨hnew, hdistinct⟩ := List.nodup_cons.mp hdistinct
    rw [writeFiles] at h
    obtain ⟨e, made, heq, -⟩ | ⟨next, heq, -, hl, hfile⟩ := writeFile_cases hcwd root f.1 f.2 v
    · rw [heq] at h
      cases h
    · rw [heq] at h
      have hrest : writeFiles cwd root rest next = (none, u) := h
      have hgrown := grown_writeFiles hcwd root rest next
      rw [hrest] at hgrown
      -- the files after the first have other places
      have hfirst := (hgrown.files _ hnew).trans hfile
      exact List.forall_mem_cons.mpr
        ⟨⟨Volume.locate_mono hgrown.directories hl, hfirst⟩, ih hdistinct hrest⟩

/-! ### The project file -/

/-- What is written for a project reads as the entries of its file. -/
theorem read_configText {c : Config} (h : Json.IsJson [] (.ofEntries c.fileEntries)) :
    Json.read (configText c) = .ok (Value.ofEntries c.fileEntries).unlabelled ∧
      '\r' ∉ (configText c).toList := by
  obtain ⟨t, hvalue, hspells⟩ := Json.writesSpelled_of_isJson h
  have htext : (configText c).toList = t ++ ['\n'] := by
    rw [configText, Json.write, hvalue]
    simp [Except.map]
  have hend : Json.AllBlanks ['\n'] := fun c hc => .inr (List.mem_singleton.mp hc)
  rw [Json.read, htext]
  refine ⟨Json.readChars_spells_append hspells hend, fun hmem => ?_⟩
  rcases List.mem_append.mp hmem with hmem | hmem
  · have hreturn : ¬Json.IsPrinted '\r' := not_or.mpr ⟨by decide, by decide⟩
    exact hreturn (Json.isPrinted_of_spells hspells _ hmem)
  · exact absurd hmem (by decide)

theorem isJson_usualTags {path : List Nat} : Json.IsJson path Config.usualTags := by
  refine Json.isJson_ofList ?_
  simp only [List.forall_mem_cons]
  exact ⟨.text _, .text _, nofun⟩

variable (p : Plan) (starter : Starter) (title description now : String)

/-- The notes of a new project's file. -/
def noted : List (String × Value) :=
  [("created", .text now), ("template", .text starter.word), ("tags", Config.usualTags)]

theorem isJson_noted {path : List Nat} : Json.IsJson path (.record (noted starter now)) := by
  refine Json.isJson_record (show ["created", "template", "tags"].Nodup by decide) ?_
  simp only [noted, List.forall_mem_cons]
  exact ⟨.text _, .text _, isJson_usualTags, nofun⟩

theorem isJson_fileEntries :
    Json.IsJson [] (.ofEntries (configOf p starter title description now).fileEntries) := by
  -- an author that is not given has no entry
  let author := p.author.toList.map fun a => ("author", Value.text a)
  have hfields : Value.ofEntries (configOf p starter title description now).fileEntries =
      .record (("title", .text title) :: (author ++
        [("description", .text description), ("version", .text Config.standard.version),
          ("input", .text Config.standard.input), ("output", .text "dist/index.html"),
          ("assetsDir", .text "assets"), ("theme", .text starter.theme),
          ("customCSS", .text "styles/custom.css"), ("customJS", .text "scripts/custom.js"),
          ("minify", .bool false), ("dependencies", .ofList []),
          ("metadata", .record (noted starter now))])) := by
    rw [configOf]
    cases hp : p.author <;> simp only [author, hp] <;> rfl
  have hauthor : ∀ f ∈ author, Json.IsJson [0] f.2 := by
    intro f hf
    obtain ⟨a, -, rfl⟩ := List.mem_map.mp hf
    exact .text a
  rw [hfields]
  refine Json.isJson_record ?_ ?_
  · cases hp : p.author <;> simp [author, hp]
  · simp only [List.forall_mem_cons, List.forall_mem_append]
    exact ⟨.text _, hauthor, .text _, .text _, .text _, .text _, .text _, .text _, .text _, .text _,
      .bool _, Json.isJson_ofList nofun, isJson_noted starter now, nofun⟩

/-- The file of a new project reads as the project. -/
theorem ofText_configText :
    Config.ofText (configText (configOf p starter title description now)) =
      .ok (.ok (configOf p starter title description now)) := by
  have hread := (read_configText (isJson_fileEntries p starter title description now)).1
  have hunlabelled : (Value.ofEntries
      (configOf p starter title description now).fileEntries).unlabelled =
        .ofEntries (configOf p starter title description now).fileEntries := by
    rw [configOf]
    cases p.author <;> rfl
  have houtcome : (Config.ofValue (.ofEntries
      (configOf p starter title description now).fileEntries)).outcome =
        .ok (configOf p starter title description now) := by
    rw [configOf]
    cases p.author <;> rfl
  rw [hunlabelled] at hread
  simp only [Config.ofText, hread, houtcome]

/-! ### Where a project is made -/

/-- Whether a path can be followed, or at least does not go up. -/
def Straight (w : Workspace) (root : Path) : Prop :=
  (∃ names, w.volume.locate w.cwd root = .ok names) ∨ ".." ∉ root.names

theorem locate_of_isFree {w : Workspace} (h : isFree w root = .ok true) :
    w.volume.locate w.cwd root ≠ .error .nameTooLong := by
  intro hl
  have hentry : w.volume.entry w.cwd root = .error .nameTooLong := by
    simp only [Volume.entry, hl, bind, Except.bind]
  simp only [isFree, Workspace.existsAt, Volume.existsAt, Volume.leadsTo, hentry, bind,
    Except.bind] at h
  cases h

theorem isEmptyDirectory_of_isFree {w : Workspace} {names : List String}
    (h : isFree w root = .ok true) (hl : w.volume.locate w.cwd root = .ok names)
    (hdirectory : w.volume.find? names = some .directory) :
    w.volume.isEmptyDirectory names = true := by
  have hentry := Volume.entry_of_locate hl hdirectory
  simp only [isFree, Workspace.existsAt, Workspace.isDirectory, Volume.existsAt, Volume.isDirectory,
    Volume.leadsTo, hentry, hl, bind, Except.bind, pure, Except.pure] at h
  simpa using h

/-- Where a project can be made, nothing lies below. -/
theorem nothing_below {w : Workspace} (hcwd : ".." ∉ w.cwd.names) (hsound : w.volume.Sound)
    (hstraight : Straight w root) (hnul : '\x00' ∉ root.toText.toList) (h : isFree w root = .ok true)
    {below : List String} (hne : below ≠ []) :
    w.volume.find? ((w.resolve root).names ++ below) = none := by
  by_contra hthere
  cases hl : w.volume.locate w.cwd root with
  | ok names =>
    obtain rfl : names = (w.resolve root).names := Volume.locate_ok hcwd hl
    -- the path leads to a directory, and that is empty
    have hempty := isEmptyDirectory_of_isFree h hl (hsound.above hne hthere)
    obtain ⟨e, he⟩ := Option.ne_none_iff_exists'.mp hthere
    rw [Volume.find?_of_ne_nil (by simp [hne])] at he
    simp only [Volume.isEmptyDirectory, Bool.not_eq_true', List.any_eq_false] at hempty
    refine hempty _ (Distinct.mem_of_lookup he) ?_
    simpa [List.length_pos_iff] using hne
  | error f =>
    have hshort : f ≠ .nameTooLong := fun heq => locate_of_isFree h (heq ▸ hl)
    have hplain : ".." ∉ root.names := hstraight.resolve_left (by simp [hl])
    have hnames : (w.resolve root).names =
        (if root.isAbsolute then [] else w.cwd.names) ++ root.names := by
      rw [Workspace.resolve, Path.resolve_names hcwd, Path.foldl_descend_of_plain hplain]
    unfold Volume.locate at hl
    rw [if_neg (by simpa using hnul)] at hl
    split at hl
    · cases hl
      exact hshort rfl
    · -- something on the way is no directory
      obtain ⟨done, rest, hroot, hrest, hfind⟩ := Volume.exists_of_follow_error hplain hl hshort
      rw [hnames, hroot, List.append_assoc, List.append_assoc, ← List.append_assoc] at hthere
      exact hfind (hsound.above (by simp [hrest]) hthere)

/-- The characters that the name of a project is made of. -/
def naming : Text.Naming where
  first := Text.IsLetter
  others c := Text.IsLetterOrDigit c ∨ c = '_' ∨ c = '-'
  first_break := Text.not_isLetter_break
  others_break := by decide

theorem isNameChar_iff (c : Char) : isNameChar c = true ↔ naming.others c := by
  simp only [isNameChar, Bool.or_eq_true, decide_eq_true_eq, Text.isAsciiAlnum_iff, or_assoc, naming]

theorem isName_iff {name : String} : isName name = true ↔ naming.FitsLine name := by
  have hread : isName name = Text.readsName Text.isAsciiLetter isNameChar name := rfl
  rw [hread]
  exact Text.Naming.readsName_iff (fun _ => Text.isAsciiLetter_iff) isNameChar_iff

theorem isNameChar_of_isName {name : String} (h : isName name = true) :
    name ≠ "" ∧ ∀ c ∈ name.toList, isNameChar c = true ∨ c = '\n' := by
  have hfits := isName_iff.mp h
  obtain ⟨first, rest, hname, -⟩ := hfits.exists_first
  refine ⟨?_, fun c hc => ?_⟩
  · rintro rfl
    cases hname
  · rw [isNameChar_iff]
    rcases hfits.chars c hc with hletter | hother | hbreak
    · exact .inl (.inl (.inl hletter))
    · exact .inl hother
    · exact .inr hbreak

/-- A name that may be used is one name of a path. -/
theorem ofString_of_isName {name : String} (h : isName name = true) :
    Path.ofString name = ⟨"", [name]⟩ ∧ name ≠ ".." := by
  have hchars := isNameChar_of_isName h
  have hslash : '/' ∉ name.toList := fun hmem => absurd (hchars.2 _ hmem) (by decide)
  have hpoint : '.' ∉ name.toList := fun hmem => absurd (hchars.2 _ hmem) (by decide)
  have hsingle : name ≠ "." := by
    rintro rfl
    exact hpoint (by decide)
  have hup : name ≠ ".." := by
    rintro rfl
    exact hpoint (by decide)
  have hnormal : Path.Normal ⟨"", [name]⟩ :=
    ⟨.inl rfl, List.forall_mem_cons.mpr ⟨⟨hchars.1, hsingle, hslash⟩, nofun⟩⟩
  have htext : Path.toText ⟨"", [name]⟩ = name := by
    simp [Path.toText, Text.join, String.intercalate_singleton]
  refine ⟨?_, hup⟩
  have hread := Path.ofString_toText hnormal
  rwa [htext] at hread

/-- The files of a project, by their paths below its directory. -/
def fileNames : Starter → List String
  | .mediaRich =>
    ["story.yaml", "vn-config.json", "assets/README.md", "styles/custom.css", "scripts/custom.js",
      "assets/images/placeholder.svg", "components/scene-badge.js", "components/scene-badge.css",
      "README.md"]
  | _ =>
    ["story.yaml", "vn-config.json", "assets/README.md", "styles/custom.css", "scripts/custom.js",
      "README.md"]

theorem map_filesOf (p : Plan) (starter : Starter) (now : String) :
    (filesOf p starter now).map Prod.fst = fileNames starter := by
  cases starter <;> rfl

theorem plain_fileNames (starter : Starter) : ∀ name ∈ fileNames starter,
    (Path.ofString name).isAbsolute = false ∧ ".." ∉ (Path.ofString name).names ∧
      (Path.ofString name).names ≠ [] := by
  cases starter <;> decide

theorem nodup_fileNames (starter : Starter) :
    ((fileNames starter).map fun name => (Path.ofString name).names).Nodup := by
  cases starter <;> decide


section Placed

variable {name : String} {starter : Starter}

theorem place_eq (hcwd : ".." ∉ cwd.names) (hname : name ∈ fileNames starter) :
    place cwd root name = (Path.resolve cwd root).names ++ (Path.ofString name).names := by
  obtain ⟨habsolute, hplain, -⟩ := plain_fileNames starter name hname
  exact Path.resolve_child hcwd habsolute hplain

theorem nodup_places (hcwd : ".." ∉ cwd.names) (root : Path) (starter : Starter) :
    ((fileNames starter).map (place cwd root)).Nodup := by
  have hplaces : (fileNames starter).map (place cwd root) =
      ((fileNames starter).map fun name => (Path.ofString name).names).map
        ((Path.resolve cwd root).names ++ ·) := by
    rw [List.map_map]
    exact List.map_congr_left fun name hname => place_eq hcwd hname
  rw [hplaces]
  exact (nodup_fileNames starter).map fun _ _ => List.append_cancel_left

end Placed

/-! ### Loading what was made -/

/-- A project file that was written is found and loads as what it says. -/
theorem load_of_written {w : Workspace} {c : Config} (hcwd : ".." ∉ w.cwd.names)
    (hlocate : w.volume.locate w.cwd (root.child "vn-config.json") =
      .ok (place w.cwd root "vn-config.json"))
    (hfile : w.volume.fileAt (place w.cwd root "vn-config.json") = some (Text.encode (configText c)))
    (hprinted : '\r' ∉ (configText c).toList) (hread : Config.ofText (configText c) = .ok (.ok c)) :
    Config.load w none root =
      .ok ⟨Config.placeAt (w.resolve root) c, some (root.child "vn-config.json"), []⟩ := by
  have hfind := Volume.find?_of_fileAt hfile
  have hthere : w.isFile (root.child "vn-config.json") = .ok true := by
    rw [Workspace.isFile, Volume.isFile, Volume.leadsTo, Volume.entry_of_locate hlocate hfind]
    rfl
  have htarget : Config.target w none root = .ok (some (root.child "vn-config.json")) := by
    have hfound : Config.find w root = .ok (some (root.child "vn-config.json")) := by
      rw [Config.find, Config.fileNames, Config.findIn, hthere]
      rfl
    exact hfound
  have htext : w.readText (root.child "vn-config.json") = .ok (configText c) := by
    rw [Workspace.readText, Workspace.read, Volume.read_of_locate hlocate hfind]
    simp only [Text.decodeFile_encode hprinted]
  have hparent : (w.resolve (root.child "vn-config.json")).parent = w.resolve root := by
    have hnames : (w.resolve (root.child "vn-config.json")).names =
        (w.resolve root).names ++ ["vn-config.json"] := Path.resolve_child hcwd (by decide) (by decide)
    rw [Path.parent, hnames, List.dropLast_concat]
    rfl
  rw [Config.load_of_target htarget, Config.ofFile, htext]
  simp only [hread, hparent]
  rfl

/-! ### Making -/

/-- The project of a plan. -/
def projectOf (p : Plan) (starter : Starter) (now : String) : Config :=
  configOf p starter (orElse p.title p.name)
    (orElse p.description ("A visual novel created with the " ++ starter.word ++ " template")) now

/-- What making a project comes to: it is refused and nothing is changed, or it ends early, or all its
files are written. No other file is touched. -/
inductive Outcome (w : Workspace) (now : String) (p : Plan) : Except Refusal Made × Volume → Prop
  | refused {e : Refusal} (h : check w p = .error e) : Outcome w now p (.error e, w.volume)
  | broken {starter : Starter} {root : Path} {e : FileError} {u : Volume}
      (h : check w p = .ok (starter, root))
      (hgrown : Grown ((fileNames starter).map (place w.cwd root)) w.volume u) :
      Outcome w now p (.error (.file e), u)
  | built {starter : Starter} {root : Path} {u : Volume} (h : check w p = .ok (starter, root))
      (hgrown : Grown ((fileNames starter).map (place w.cwd root)) w.volume u)
      (hwritten : ∀ f ∈ filesOf p starter now,
        u.locate w.cwd (root.child f.1) = .ok (place w.cwd root f.1) ∧
          u.fileAt (place w.cwd root f.1) = some (Text.encode f.2)) :
      Outcome w now p (.ok ⟨root, starter, fileNames starter⟩, u)

variable {w : Workspace} {p : Plan} {now : String}

theorem outcome_create (hcwd : ".." ∉ w.cwd.names) (now : String) (p : Plan) :
    Outcome w now p (create w now p) := by
  rw [create]
  cases hcheck : check w p with
  | error e => exact .refused hcheck
  | ok found =>
    obtain ⟨starter, root⟩ := found
    -- the folders and then the files: each part leaves alone all but the places of the files
    have hplaces : (filesOf p starter now).map (fun f => place w.cwd root f.1) =
        (fileNames starter).map (place w.cwd root) := by
      rw [← map_filesOf p starter now, List.map_map]
      rfl
    have hfolders := (grown_makeFolders w.cwd root folders w.volume).mono
      (List.nil_subset ((fileNames starter).map (place w.cwd root)))
    simp only
    generalize makeFolders w.cwd root folders w.volume = made at hfolders
    obtain ⟨refusal, v⟩ := made
    cases refusal with
    | some e => exact .broken hcheck hfolders
    | none =>
      have hfiles := grown_writeFiles hcwd root (filesOf p starter now) v
      rw [hplaces] at hfiles
      simp only
      cases hwrite : writeFiles w.cwd root (filesOf p starter now) v with
      | mk refusal u =>
        rw [hwrite] at hfiles
        have hgrown := hfolders.trans hfiles
        cases refusal with
        | some e => exact .broken hcheck hgrown
        | none =>
          have hdistinct := hplaces ▸ nodup_places hcwd root starter
          have hnames : (filesOf p starter now).map (·.1) = fileNames starter :=
            map_filesOf p starter now
          simp only [hnames]
          exact .built hcheck hgrown (written_writeFiles hcwd hdistinct hwrite)

theorem check_ok {starter : Starter} (h : check w p = .ok (starter, root)) :
    root = (Path.ofString p.directory).child p.name ∧ Starter.named? p.starter = some starter ∧
      isName p.name = true ∧ isFree w root = .ok true := by
  unfold check at h
  split at h
  · cases h
  · next hstarter =>
    split at h
    · cases h
    · next hname =>
      simp only at h
      split at h
      · cases h
      · cases h
      · next hfree =>
        cases h
        exact ⟨rfl, hstarter, by simpa using hname, hfree⟩

/-- What the file of a project says once it is loaded: what was asked for, and in full the paths of the
project's own files and folders. -/
structure Told (w : Workspace) (now : String) (p : Plan) (made : Made) (c : Config) : Prop where
  title : c.title = orElse p.title p.name
  author : c.author = p.author
  description : c.description = some (orElse p.description
    ("A visual novel created with the " ++ made.starter.word ++ " template"))
  theme : c.theme = made.starter.theme
  metadata : c.metadata = [(.text "created", .text now), (.text "template", .text made.starter.word),
    (.text "tags", Config.usualTags)]
  input : c.input = ((w.resolve made.root).child "story.yaml").toText
  output : c.output = ((w.resolve made.root).child "dist/index.html").toText
  assets : c.assets = some ((w.resolve made.root).child "assets").toText
  customStyle : c.customStyle = some ((w.resolve made.root).child "styles/custom.css").toText
  customScript : c.customScript = some ((w.resolve made.root).child "scripts/custom.js").toText

/-- What making a project leaves. -/
structure Scaffolded (w : Workspace) (now : String) (p : Plan) (made : Made) (u : Volume) : Prop where
  root : made.root = (Path.ofString p.directory).child p.name
  starter : Starter.named? p.starter = some made.starter
  files : made.files = fileNames made.starter
  /-- The files lie below the name of the project in the directory that was given. -/
  below : ∀ name ∈ made.files, ∃ names ≠ [], place w.cwd made.root name =
    (w.resolve (Path.ofString p.directory)).names ++ p.name :: names
  distinct : (made.files.map (place w.cwd made.root)).Nodup
  written : ∀ f ∈ filesOf p made.starter now,
    u.fileAt (place w.cwd made.root f.1) = some (Text.encode f.2)
  untouched : ∀ m, m ∉ made.files.map (place w.cwd made.root) → u.fileAt m = w.volume.fileAt m
  /-- Where the project is reached straight, earlier files stay and only its own files are new. -/
  kept : Straight w made.root → ∀ m b, w.volume.fileAt m = some b → u.fileAt m = some b
  added : Straight w made.root → ∀ m, (w.volume.fileAt m = none ∧ u.fileAt m ≠ none) ↔
    m ∈ made.files.map (place w.cwd made.root)
  loads : ∃ c, Config.load { w with volume := u } none made.root =
      .ok ⟨c, some (made.root.child "vn-config.json"), []⟩ ∧ Told w now p made c

theorem told_placeAt (starter : Starter) (files : List String) :
    Told w now p ⟨root, starter, files⟩
      (Config.placeAt (w.resolve root) (projectOf p starter now)) := by
  have hplaced (s : String) (h : (s.isEmpty || (Path.ofString s).isAbsolute) = false) :
      Config.placed (w.resolve root) s = ((w.resolve root).child s).toText := by
    rw [Config.placed, h, if_neg Bool.false_ne_true]
  have hinput := hplaced "story.yaml" (by decide)
  have houtput := hplaced "dist/index.html" (by decide)
  have hassets := hplaced "assets" (by decide)
  have hstyle := hplaced "styles/custom.css" (by decide)
  have hscript := hplaced "scripts/custom.js" (by decide)
  refine ⟨rfl, rfl, rfl, rfl, rfl, ?_, ?_, ?_, ?_, ?_⟩ <;>
    simp only [Config.placeAt, projectOf, configOf, Config.standard, Option.map_some, hinput, houtput,
      hassets, hstyle, hscript]

/-- A directory in which a file could be written has no NUL in its path. -/
theorem not_mem_toText_of_locate {cwd : Path} {name : String} {names : List String}
    (hroot : root.Normal) (hrelative : (Path.ofString name).isAbsolute = false)
    (h : u.locate cwd (root.child name) = .ok names) : '\x00' ∉ root.toText.toList := by
  intro hnul
  rw [Path.mem_toText hroot (by decide) (by decide)] at hnul
  have hnormal : (root.child name).Normal := hroot.append (Path.normal_ofString name)
  have hmem : '\x00' ∈ (root.child name).toText.toList := by
    rw [Path.mem_toText hnormal (by decide) (by decide), Path.child_of_relative hrelative]
    obtain ⟨n, hn, hc⟩ := hnul
    exact ⟨n, List.mem_append_left _ hn, hc⟩
  rw [Volume.locate, if_pos (by simpa using hmem)] at h
  cases h

/-- The files of a project lie below its name in the directory that was given. -/
theorem exists_below {starter : Starter} {name : String} (hcwd : ".." ∉ w.cwd.names)
    (hroot : root = (Path.ofString p.directory).child p.name) (hvalid : isName p.name = true)
    (hname : name ∈ fileNames starter) : ∃ names ≠ [], place w.cwd root name =
      (w.resolve (Path.ofString p.directory)).names ++ p.name :: names := by
  obtain ⟨hsingle, hup⟩ := ofString_of_isName hvalid
  have habove : (Path.resolve w.cwd root).names =
      (w.resolve (Path.ofString p.directory)).names ++ [p.name] := by
    rw [hroot, Path.resolve_child hcwd (by rw [hsingle]; rfl) (by rw [hsingle]; simpa using hup.symm),
      hsingle]
    rfl
  refine ⟨(Path.ofString name).names, (plain_fileNames starter name hname).2.2, ?_⟩
  rw [place_eq hcwd hname, habove, List.append_assoc]
  rfl

/-- Where the path is straight, the files of a project take no place that is taken. -/
theorem fileAt_of_free {starter : Starter} {name : String} (hcwd : ".." ∉ w.cwd.names)
    (hsound : w.volume.Sound) (hstraight : Straight w root) (hnul : '\x00' ∉ root.toText.toList)
    (hfree : isFree w root = .ok true) (hname : name ∈ fileNames starter) :
    w.volume.fileAt (place w.cwd root name) = none := by
  have hnone := nothing_below hcwd hsound hstraight hnul hfree (plain_fileNames starter name hname).2.2
  rw [place_eq hcwd hname]
  exact Volume.fileAt_of_find?_none hnone

theorem scaffolded_of_built {starter : Starter} (hcwd : ".." ∉ w.cwd.names) (hsound : w.volume.Sound)
    (h : check w p = .ok (starter, root))
    (hgrown : Grown ((fileNames starter).map (place w.cwd root)) w.volume u)
    (hwritten : ∀ f ∈ filesOf p starter now,
      u.locate w.cwd (root.child f.1) = .ok (place w.cwd root f.1) ∧
        u.fileAt (place w.cwd root f.1) = some (Text.encode f.2)) :
    Scaffolded w now p ⟨root, starter, fileNames starter⟩ u := by
  obtain ⟨hroot, hstarter, hvalid, hfree⟩ := check_ok h
  -- the project file could be written, so its path has no NUL in it
  have hmem : ("vn-config.json", configText (projectOf p starter now)) ∈ filesOf p starter now :=
    List.mem_append_left _ (List.mem_append_left _ (List.mem_cons_of_mem _ List.mem_cons_self))
  have hconfig := hwritten _ hmem
  have hrelative : (Path.ofString "vn-config.json").isAbsolute = false := by decide
  have hnormal : root.Normal := by
    rw [hroot]
    exact (Path.normal_ofString p.directory).append (Path.normal_ofString p.name)
  have hnul := not_mem_toText_of_locate hnormal hrelative hconfig.1
  -- no place of a project that is reached straight was taken before
  have htaken : Straight w root → ∀ m ∈ (fileNames starter).map (place w.cwd root),
      w.volume.fileAt m = none := by
    intro hstraight m hm
    obtain ⟨name, hname, rfl⟩ := List.mem_map.mp hm
    exact fileAt_of_free hcwd hsound hstraight hnul hfree hname
  refine ⟨hroot, hstarter, rfl, fun name => exists_below hcwd hroot hvalid,
    nodup_places hcwd root starter, fun f hf => (hwritten f hf).2, hgrown.files,
    fun hstraight m b hb => ?_, fun hstraight m => ?_,
    Config.placeAt (w.resolve root) (projectOf p starter now), ?_, told_placeAt starter _⟩
  · have hother : m ∉ (fileNames starter).map (place w.cwd root) := fun hm =>
      Option.some_ne_none b (hb.symm.trans (htaken hstraight m hm))
    exact (hgrown.files m hother).trans hb
  · constructor
    · rintro ⟨hnone, hnew⟩
      by_contra hother
      exact hnew ((hgrown.files m hother).trans hnone)
    · intro hm
      refine ⟨htaken hstraight m hm, ?_⟩
      rw [← map_filesOf p starter now, List.map_map] at hm
      obtain ⟨f, hf, rfl⟩ := List.mem_map.mp hm
      rw [Function.comp_apply, (hwritten f hf).2]
      exact Option.some_ne_none _
  · exact load_of_written (w := ⟨u, w.cwd, w.home, w.programDirectory⟩) hcwd hconfig.1 hconfig.2
      (read_configText (isJson_fileEntries p starter _ _ now)).2 (ofText_configText p starter _ _ now)

/-- A project that is refused as such changes nothing. One that is made has its files below its name in
the directory that was given, each once and as it was written, and loads as what was asked for; but for
a directory given by a detour, no place was taken and nothing else is new. -/
theorem create_scaffolds (hcwd : ".." ∉ w.cwd.names) (hsound : w.volume.Sound) (now : String)
    (p : Plan) :
    (∀ e, (create w now p).1 = .error e → (∀ f, e ≠ .file f) → (create w now p).2 = w.volume) ∧
    ∀ made, (create w now p).1 = .ok made → Scaffolded w now p made (create w now p).2 := by
  have houtcome := outcome_create hcwd now p
  generalize create w now p = r at houtcome
  cases houtcome with
  | refused h =>
    refine ⟨fun _ _ _ => rfl, fun made hmade => ?_⟩
    cases hmade
  | broken h hgrown =>
    refine ⟨fun e he hfile => ?_, fun made hmade => ?_⟩
    · cases he
      exact absurd rfl (hfile _)
    · cases hmade
  | built h hgrown hwritten =>
    refine ⟨fun e he => ?_, fun made hmade => ?_⟩
    · cases he
    · cases hmade
      exact scaffolded_of_built hcwd hsound h hgrown hwritten

/-- A directory with the notes of a game, and a list beside it. -/
def drawer : Workspace :=
  ⟨⟨[(["game"], .directory), (["game", "README.md"], .file [109, 105, 110, 101]),
    (["list"], .file [109])]⟩, ⟨"/", []⟩, ⟨"/", []⟩, ⟨"/", []⟩⟩

/-- A plan of the least that is needed. -/
def planAt (directory name : String) : Plan := ⟨name, "basic", directory, none, none, none⟩

theorem sound_drawer : drawer.volume.Sound := Volume.sound_of_all (by decide)

theorem create_scaffolds_drawer :
    ".." ∉ drawer.cwd.names ∧ drawer.volume.Sound ∧
    ∃ made, (create drawer "now" (planAt "." "new")).1 = .ok made ∧
      Scaffolded drawer "now" (planAt "." "new") made (create drawer "now" (planAt "." "new")).2 ∧
      (create drawer "now" (planAt "." "new")).2.fileAt ["list"] = some [109] := by
  have hcwd : ".." ∉ drawer.cwd.names := List.not_mem_nil
  have hok : (create drawer "now" (planAt "." "new")).1.isOk = true := by decide +kernel
  cases hmade : (create drawer "now" (planAt "." "new")).1 with
  | error e =>
    rw [hmade] at hok
    cases hok
  | ok made =>
    have hscaffolded := (create_scaffolds hcwd sound_drawer "now" (planAt "." "new")).2 made hmade
    have hstraight : Straight drawer made.root := by
      rw [hscaffolded.root]
      exact .inr (by decide +kernel)
    exact ⟨hcwd, sound_drawer, made, rfl, hscaffolded, hscaffolded.kept hstraight _ _ rfl⟩

theorem head?_encode_notes (name title starter : String) :
    (Text.encode (notes name title starter)).head? = some 35 := by
  simp only [Text.encode, notes, Text.join, String.intercalate_cons_cons, String.toList_append,
    List.append_assoc]
  rfl

/-- A file can be lost to a project whose directory is given by a detour. -/
theorem not_kept_drawer :
    ¬∀ (w : Workspace) (now : String) (p : Plan) (made : Made), ".." ∉ w.cwd.names →
      w.volume.Sound → (create w now p).1 = .ok made →
      ∀ m b, w.volume.fileAt m = some b → (create w now p).2.fileAt m = some b := by
  intro h
  have hcwd : ".." ∉ drawer.cwd.names := List.not_mem_nil
  have hok : (create drawer "now" (planAt "x/.." "game")).1.isOk = true := by decide +kernel
  have houtcome := outcome_create hcwd "now" (planAt "x/.." "game")
  have hkept := h drawer "now" (planAt "x/.." "game")
  generalize create drawer "now" (planAt "x/.." "game") = r at hok houtcome hkept
  cases houtcome with
  | refused _ => cases hok
  | broken _ _ => cases hok
  | @built starter _ _ hcheck _ hwritten =>
    obtain ⟨rfl, -⟩ := check_ok hcheck
    have hlast : ("README.md", notes "game" "game" starter.word) ∈
        filesOf (planAt "x/.." "game") starter "now" := by
      simp only [filesOf, List.mem_append, List.mem_singleton]
      exact .inr rfl
    have hnew := (hwritten _ hlast).2
    have hplace : place drawer.cwd ((Path.ofString "x/..").child "game") "README.md" =
        ["game", "README.md"] := by decide +kernel
    have hnew : _ = some (Text.encode (notes "game" "game" starter.word)) := hplace ▸ hnew
    have hold := hkept _ hcwd sound_drawer rfl ["game", "README.md"] [109, 105, 110, 101] rfl
    have hhead := head?_encode_notes "game" "game" starter.word
    rw [Option.some.inj (hnew.symm.trans hold)] at hhead
    cases hhead
end Project
end Storybind
