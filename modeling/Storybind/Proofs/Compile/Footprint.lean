import Mathlib.Tactic
import Storybind.Proofs.Agreement
import Storybind.Proofs.Compile.Breakdown

/-!
Where a compile looks for files. On a volume that is the same at these places it gives the same page, so
nothing else that is on the volume finds its way into a page.
-/

namespace Storybind

open Storybind.Except (bind_congr_ok bind_eq_ok foldlM_congr mapError_eq_ok map_eq_ok)

variable {w : Workspace} {v : Volume} {p : Path}

namespace Lookup

variable {candidate : Path} {places : Lookup} {requested : String}

/-- The paths that are tried below places, up to the first that has the file. -/
inductive Tries (w : Workspace) (candidate : Path) : Lookup → Path → Prop where
  | here {place : Place} {rest : Lookup} {base full : Path}
      (hbase : baseDirectory? w place.base = some base)
      (hfull : fullPath w (base ++ candidate) = .ok full) : Tries w candidate (place :: rest) full
  | later {place : Place} {rest : Lookup} {p : Path}
      (hmissing : ∀ base full, baseDirectory? w place.base = some base →
        fullPath w (base ++ candidate) = .ok full → w.isFile full = .ok false)
      (h : Tries w candidate rest p) : Tries w candidate (place :: rest) p

/-- The paths at which a look-up looks for a file. -/
inductive LooksAt (w : Workspace) (places : Lookup) (requested : String) : Path → Prop where
  | absolute {p : Path} (hgiven : (requested.isEmpty || isWebAddress requested) = false)
      (hpath : w.expandHome? (Path.ofString requested) = some p) (habsolute : p.isAbsolute = true) :
      LooksAt w places requested p
  | below {candidate p : Path} (hgiven : (requested.isEmpty || isWebAddress requested) = false)
      (hpath : w.expandHome? (Path.ofString requested) = some candidate)
      (hrelative : ¬candidate.isAbsolute = true) (h : Tries w candidate places p) :
      LooksAt w places requested p

@[simp] theorem fullPath_on (w : Workspace) (v : Volume) (p : Path) :
    fullPath (w.on v) p = fullPath w p := rfl

@[simp] theorem baseDirectory?_on (w : Workspace) (v : Volume) (b : Base) :
    baseDirectory? (w.on v) b = baseDirectory? w b := rfl

@[simp] theorem usual_on (w : Workspace) (v : Volume) (script : Option Path) :
    usual (w.on v) script = usual w script := rfl

theorem search_congr (h : ∀ p, Tries w candidate places p → w.Same v p) (tried : List String) :
    search (w.on v) requested candidate tried places = search w requested candidate tried places := by
  induction places generalizing tried with
  | nil => rfl
  | cons place rest ih =>
    unfold search
    rw [baseDirectory?_on]
    cases hbase : baseDirectory? w place.base with
    | none =>
      refine ih (fun p hp => h p (.later (fun base full hb => ?_) hp)) tried
      rw [hbase] at hb
      cases hb
    | some base =>
      simp only [fullPath_on]
      cases hfull : fullPath w (base ++ candidate) with
      | error e => rfl
      | ok full =>
        simp only [(h full (.here hbase hfull)).isFile]
        cases hfile : w.isFile full with
        | error e => rfl
        | ok found =>
          cases found with
          | true => rfl
          | false =>
            -- nothing is there, so the places after it are tried as well
            refine ih (fun p hp => h p (.later (fun base' full' hb hf => ?_) hp)) _
            rw [hbase] at hb
            cases hb
            rw [hfull] at hf
            cases hf
            exact hfile

theorem tries_of_search {tried : List String} {name : String}
    (h : search w requested candidate tried places = .ok (.file p name)) :
    Tries w candidate places p := by
  induction places generalizing tried with
  | nil => cases h
  | cons place rest ih =>
    unfold search at h
    split at h
    · next hbase =>
      refine .later (fun base full hb => ?_) (ih h)
      rw [hbase] at hb
      cases hb
    · next base hbase =>
      split at h
      · cases h
      · next full hfull =>
        split at h
        · cases h
        · cases h
          exact .here hbase hfull
        · next hfile =>
          refine .later (fun base' full' hb hf => ?_) (ih h)
          rw [hbase] at hb
          cases hb
          rw [hfull] at hf
          cases hf
          exact hfile

theorem find_congr (h : ∀ p, LooksAt w places requested p → w.Same v p) :
    find (w.on v) requested places = find w requested places := by
  unfold find
  split
  · rfl
  · next hgiven =>
    have hgiven := Bool.eq_false_of_not_eq_true hgiven
    rw [Workspace.expandHome?_on]
    cases hpath : w.expandHome? (Path.ofString requested) with
    | none => rfl
    | some candidate =>
      simp only
      split
      · next habsolute => rw [(h candidate (.absolute hgiven hpath habsolute)).isFile]
      · next hrelative =>
        exact search_congr (fun p hp => h p (.below hgiven hpath hrelative hp)) []

/-- A file that is found was looked at. -/
theorem looksAt_of_find {name : String} (h : find w requested places = .ok (.file p name)) :
    LooksAt w places requested p := by
  unfold find at h
  split at h
  · cases h
  · next hgiven =>
    have hgiven := Bool.eq_false_of_not_eq_true hgiven
    split at h
    · cases h
    · next candidate hpath =>
      split at h
      · next habsolute =>
        split at h
        · cases h
        · cases h
          exact .absolute hgiven hpath habsolute
        · cases h
      · next hrelative => exact .below hgiven hpath hrelative (tries_of_search h)

end Lookup

/-! ### Components -/

namespace Mount

variable {places : Lookup} {candidates : List String} {records : List Value} {d : Directive}

/-- Those of some paths that are looked up, up to the first that is found. -/
inductive Seeks (w : Workspace) (places : Lookup) : List String → String → Prop where
  | here {s : String} {rest : List String} : Seeks w places (s :: rest) s
  | later {s s' : String} {rest : List String}
      (hmissing : ∀ p name, Lookup.find w s places ≠ .ok (.file p name)) (h : Seeks w places rest s') :
      Seeks w places (s :: rest) s'

theorem firstFound_congr
    (h : ∀ s, Seeks w places candidates s → ∀ p, Lookup.LooksAt w places s p → w.Same v p) :
    firstFound (w.on v) places candidates = firstFound w places candidates := by
  induction candidates with
  | nil => rfl
  | cons s rest ih =>
    unfold firstFound
    rw [Lookup.find_congr (h s .here)]
    cases hfind : Lookup.find w s places with
    | error e => rfl
    | ok found =>
      cases found with
      | file path place => rfl
      | missing requested tried =>
        refine ih fun s' hs' => h s' (.later (fun p name hfile => ?_) hs')
        rw [hfind] at hfile
        cases hfile

/-- Whether a directive stands in one of the records of scenes. -/
def Holds (records : List Value) (d : Directive) : Prop :=
  ∃ record ∈ records, ∃ scene index,
    Scene.ofRecord? record = .ok (some scene) ∧ (index, .directive d) ∈ sceneTokens scene

/-- The paths at which the stylesheet beside a script is looked for. -/
inductive LooksBeside (w : Workspace) (places : Lookup) (d : Directive) : Path → Prop where
  | intro {base s : String} {p : Path} (hnone : d.stylesheet = none)
      (hbase : scriptBase? d.script = some base)
      (hs : Seeks w places (stylesheetSuffixes.map (base ++ ·)) s)
      (hp : Lookup.LooksAt w places s p) : LooksBeside w places d p

theorem ofDirective_congr (h : ∀ p, LooksBeside w places d p → w.Same v p)
    (scene : String) (instruction number : Nat) :
    ofDirective (w.on v) places scene instruction number d =
      ofDirective w places scene instruction number d := by
  unfold ofDirective
  cases hstyle : d.stylesheet with
  | some s => rfl
  | none =>
    have hbeside : besideScript (w.on v) places d.script = besideScript w places d.script := by
      unfold besideScript
      cases hbase : scriptBase? d.script with
      | none => rfl
      | some base => exact firstFound_congr fun s hs p hp => h p (.intro hstyle hbase hs hp)
    simp only [hbeside]

theorem extract_congr
    (h : ∀ d, Holds records d → ∀ p, LooksBeside w places d p → w.Same v p) :
    extract (w.on v) places records = extract w places records := by
  refine foldlM_congr (fun record hrecord found => ?_) _
  unfold takeRecord
  cases hscene : Scene.ofRecord? record with
  | error e => rfl
  | ok scene =>
    cases scene with
    | none => rfl
    | some scene =>
      refine foldlM_congr (fun token htoken found => ?_) found
      obtain ⟨index, token⟩ := token
      cases token with
      | malformed text position => rfl
      | directive d =>
        have hholds : Holds records d := ⟨record, hrecord, scene, index, hscene, htoken⟩
        unfold takeToken
        simp only [ofDirective_congr (h d hholds)]

end Mount

namespace Parts

variable {places : Lookup} {mounts : List Mount}

theorem load_congr
    (h : ∀ request ∈ requests mounts, ∀ p, Lookup.LooksAt w places request.2.1 p → w.Same v p) :
    load (w.on v) places mounts = load w places mounts := by
  refine foldlM_congr (fun request hrequest parts => ?_) _
  obtain ⟨kind, requested, component⟩ := request
  have hlooks := h _ hrequest
  unfold loadOne
  simp only [Lookup.find_congr hlooks]
  cases hfind : Lookup.find w requested places with
  | error e => rfl
  | ok found =>
    cases found with
    | missing requested tried => rfl
    | file path place => simp only [(hlooks path (Lookup.looksAt_of_find hfind)).readText]

end Parts

/-! ### The player -/

namespace Player

variable {player : Player}

/-- The paths of the files of a player. -/
inductive Reads (player : Player) : Path → Prop where
  | template {p : Path} (h : player.templatePath? = some p) : Reads player p
  | file {d : Path} {f : String} (hd : player.directory = some d) (hf : f ∈ files) :
      Reads player (d.child f)

theorem loadTemplate_congr (h : ∀ p, player.Reads p → w.Same v p) :
    player.loadTemplate (w.on v) = player.loadTemplate w := by
  unfold loadTemplate
  cases hpath : player.templatePath? with
  | none => rfl
  | some p =>
    simp only [templateAt]
    rw [(h p (.template hpath)).readText]

theorem loadFile_congr (h : w.Same v p) : loadFile (w.on v) p = loadFile w p := by
  unfold loadFile
  rw [h.readText]

theorem loadEach_congr {scripts : List (String × Path)} (h : ∀ x ∈ scripts, w.Same v x.2)
    (done : Loaded) : loadEach (w.on v) scripts done = loadEach w scripts done := by
  induction scripts generalizing done with
  | nil => rfl
  | cons x rest ih =>
    obtain ⟨slot, p⟩ := x
    obtain ⟨hfirst, hrest⟩ := List.forall_mem_cons.mp h
    unfold loadEach
    rw [loadFile_congr hfirst]
    cases loadFile w p with
    | error e => rfl
    | ok r => exact ih hrest (done.add slot p r)

theorem allScripts_congr (h : ∀ p, player.Reads p → w.Same v p) :
    player.allScripts (w.on v) = player.allScripts w := by
  have hscripts : player.loadScripts (w.on v) = player.loadScripts w := by
    unfold loadScripts
    cases hd : player.directory with
    | none => rfl
    | some d =>
      refine loadEach_congr (List.forall_mem_map.mpr fun s hs => h _ (.file hd ?_)) _
      exact List.mem_append_left _ (List.mem_map_of_mem hs)
  unfold allScripts
  rw [hscripts]

theorem loadLook_congr (h : ∀ p, player.Reads p → w.Same v p) :
    player.loadLook (w.on v) = player.loadLook w := by
  unfold loadLook
  cases hd : player.directory with
  | none => rfl
  | some d =>
    have hlook : "assets/theme.css" ∈ files := List.mem_append_right _ List.mem_cons_self
    simp only [loadFile_congr (h _ (.file hd hlook))]

end Player

/-! ### Libraries -/

namespace Download

variable {settings : Settings} {base : Option Path} {s : Fetch.State} {ds : List Declaration}
  {xs : List Download}

/-- The path of a bundled library that is no address of the web. -/
inductive LooksAt (w : Workspace) (base : Option Path) (d : Declaration) : Path → Prop where
  | intro {p : Path} (hkind : d.kind = .bundled) (hlocal : isWebAddress (d.url.getD "") = false)
      (hp : Fetch.localPath w base (d.url.getD "") = .ok p) : LooksAt w base d p

/-- Whether attempts for a library give the same on another volume. -/
def SameAttempts (w : Workspace) (v : Volume) (settings : Settings) (base : Option Path)
    (d : Declaration) : Prop :=
  ∀ n, Fetch.attempt (w.on v) settings base (d.url.getD "") n =
    Fetch.attempt w settings base (d.url.getD "") n

theorem sameAttempts_of_looksAt {d : Declaration} (hkind : d.kind = .bundled)
    (h : ∀ p, LooksAt w base d p → w.Same v p) : SameAttempts w v settings base d := by
  intro n
  unfold Fetch.attempt
  split
  · rfl
  · split
    · rfl
    · next hlocal =>
      have hlocal := Bool.eq_false_of_not_eq_true hlocal
      have hpaths : Fetch.localPath (w.on v) base (d.url.getD "") =
          Fetch.localPath w base (d.url.getD "") := rfl
      unfold Fetch.ofFile
      rw [hpaths]
      cases hp : Fetch.localPath w base (d.url.getD "") with
      | error e => rfl
      | ok p =>
        have hread := (h p (.intro hkind hlocal hp)).read
        simp only [bind, Except.bind, hread]

/-- Whether the attempts that a download waits for give the same on another volume. -/
def Steady (w : Workspace) (v : Volume) (settings : Settings) (base : Option Path) :
    Download → Prop
  | .waiting d _ _ _ => SameAttempts w v settings base d
  | _ => True

theorem steady_goOn {d : Declaration} (h : SameAttempts w v settings base d) (key : String)
    (number : Nat) (answer : Except Fetch.Breakdown (Except Fetch.Fault Bytes)) (s : Fetch.State) :
    Steady w v settings base (goOn settings d key number answer s).1 := by
  rcases goOn_cases settings d key number answer s with
    ⟨e, hbroken⟩ | ⟨content, -, harrived⟩ | ⟨complaint, hwaiting⟩
  · rw [hbroken]
    trivial
  · rw [harrived]
    trivial
  · rw [hwaiting]
    exact h

theorem advance_congr {x : Download} (h : Steady w v settings base x) (s : Fetch.State) :
    advance (w.on v) settings base x s = advance w settings base x s ∧
      Steady w v settings base (advance w settings base x s).1 := by
  cases x with
  | waiting d key attempts complaint =>
    have hattempts : SameAttempts w v settings base d := h
    unfold advance
    simp only
    split
    · simp only [attempt, hattempts s.network]
      exact ⟨trivial, steady_goOn hattempts _ _ _ _⟩
    · exact ⟨rfl, h⟩
  | idle => exact ⟨rfl, trivial⟩
  | arrived content => exact ⟨rfl, trivial⟩
  | broken e => exact ⟨rfl, trivial⟩

theorem round_congr (h : ∀ x ∈ xs, Steady w v settings base x) (s : Fetch.State) :
    round (w.on v) settings base xs s = round w settings base xs s ∧
      ∀ x ∈ (round w settings base xs s).1, Steady w v settings base x := by
  induction xs generalizing s with
  | nil => exact ⟨rfl, h⟩
  | cons x rest ih =>
    obtain ⟨hfirst, hrest⟩ := List.forall_mem_cons.mp h
    obtain ⟨hadvance, hsteady⟩ := advance_congr hfirst s
    obtain ⟨hround, hothers⟩ := ih hrest (advance w settings base x s).2
    unfold round
    simp only [hadvance, hround]
    exact ⟨trivial, List.forall_mem_cons.mpr ⟨hsteady, hothers⟩⟩

theorem rounds_congr (h : ∀ x ∈ xs, Steady w v settings base x) (left : Nat) (s : Fetch.State) :
    rounds (w.on v) settings base left xs s = rounds w settings base left xs s := by
  induction left generalizing xs s with
  | zero =>
    unfold rounds
    rw [(round_congr h s).1]
  | succ left ih =>
    obtain ⟨hround, hsteady⟩ := round_congr h s
    unfold rounds
    simp only [hround]
    split
    · rfl
    · split
      · exact ih hsteady _
      · rfl

theorem fetchAll_congr (h : ∀ d ∈ ds, ∀ p, LooksAt w base d p → w.Same v p) (s : Fetch.State) :
    fetchAll (w.on v) settings base ds s = fetchAll w settings base ds s := by
  -- before the first attempt only the cache is asked
  have hstart : start (w.on v) base s.cache = start w base s.cache := rfl
  have hsteady : ∀ x ∈ ds.map (start w base s.cache), Steady w v settings base x := by
    refine List.forall_mem_map.mpr fun d hd => ?_
    unfold start
    split
    · next hkind =>
      split
      · trivial
      · split
        · trivial
        · trivial
        · exact sameAttempts_of_looksAt hkind (h d hd)
    · trivial
  unfold fetchAll
  simp only [hstart, rounds_congr hsteady]

end Download

theorem Bundle.resolve_congr {settings : Settings} {base : Option Path} {minify : Bool}
    {ds : List Declaration} (h : ∀ d ∈ ds, ∀ p, Download.LooksAt w base d p → w.Same v p)
    (s : Fetch.State) :
    resolve (w.on v) settings base minify ds s = resolve w settings base minify ds s := by
  have hordered : ∀ d ∈ Declaration.byPriority ds, ∀ p, Download.LooksAt w base d p → w.Same v p :=
    fun d hd => h d (List.mem_mergeSort.mp hd)
  unfold resolve
  simp only [Download.fetchAll_congr hordered]

/-! ### Compiles -/

/-- Where the libraries of a story are looked for. -/
def Tale.base (w : Workspace) (tale : Tale) : Path := (tale.script.map Path.parent).getD w.cwd

namespace Compiler

variable {c : Compiler} {r : Request} {tale : Tale}

/-- The paths that a story leads to: those of its components and of its libraries that are files. -/
inductive Leads (c : Compiler) (w : Workspace) (r : Request) (tale : Tale) : Path → Prop where
  | beside {places : Lookup} {d : Directive} {p : Path}
      (hplaces : Lookup.usual w tale.script = .ok places) (hd : Mount.Holds tale.scenes d)
      (hp : Mount.LooksBeside w places d p) : Leads c w r tale p
  | part {places : Lookup} {found : Mount.Extraction} {request : PartKind × String × String}
      {p : Path} (hplaces : Lookup.usual w tale.script = .ok places)
      (hfound : Mount.extract w places tale.scenes = .ok found)
      (hrequest : request ∈ Parts.requests found.mounts)
      (hp : Lookup.LooksAt w places request.2.1 p) : Leads c w r tale p
  | library {libraries : List Declaration} {warnings : List String} {d : Declaration} {p : Path}
      (hlibraries : c.librariesOf r tale.story = .ok (libraries, warnings)) (hd : d ∈ libraries)
      (hp : Download.LooksAt w (some (tale.base w)) d p) : Leads c w r tale p

/-- The paths at which a compile looks for files. -/
inductive Reads (c : Compiler) (w : Workspace) (r : Request) : Path → Prop where
  | input (h : r.input.toList.contains '\n' = false) : Reads c w r (Path.ofString r.input)
  | player {p : Path} (h : c.player.Reads p) : Reads c w r p
  | assets {d : String} (h : r.assets = some d) (hd : d.isEmpty = false) :
      Reads c w r (Path.ofString d)
  | added {f : String} (h : r.customStyle = some f ∨ r.customScript = some f)
      (hf : f.isEmpty = false) : Reads c w r (Path.ofString f)
  | story {tale : Tale} {p : Path} (htale : c.tell w r = .ok tale) (h : Leads c w r tale p) :
      Reads c w r p

/-- Whether another volume is the same where a compile looks. -/
structure SameFor (c : Compiler) (w : Workspace) (r : Request) (v : Volume) : Prop where
  same : ∀ p, Reads c w r p → w.Same v p
  assets : ∀ d names, r.assets = some d → w.volume.locate w.cwd (Path.ofString d) = .ok names →
    v.filesBelow names = w.volume.filesBelow names

theorem tell_congr (h : SameFor c w r v) : c.tell (w.on v) r = c.tell w r := by
  have hread : Story.read (w.on v) r.input = Story.read w r.input := by
    unfold Story.read
    split
    · rfl
    · next hpath =>
      have hsame := h.same _ (.input (Bool.eq_false_of_not_eq_true hpath))
      simp only [hsame.isFile, hsame.readText, Workspace.resolve_on]
  unfold tell
  rw [hread]

theorem outfit_congr (h : SameFor c w r v) : c.outfit (w.on v) = c.outfit w := by
  have hplayer : ∀ p, c.player.Reads p → w.Same v p := fun p hp => h.same p (.player hp)
  unfold outfit
  rw [Player.loadTemplate_congr hplayer, Player.allScripts_congr hplayer,
    Player.loadLook_congr hplayer]

theorem fromDirectory_congr {limit : Int} {d : String}
    (hsame : d.isEmpty = false → w.Same v (Path.ofString d))
    (hfiles : ∀ names, w.volume.locate w.cwd (Path.ofString d) = .ok names →
      v.filesBelow names = w.volume.filesBelow names) :
    Asset.fromDirectory (w.on v) limit d = Asset.fromDirectory w limit d := by
  unfold Asset.fromDirectory
  cases hd : d.isEmpty with
  | true => rw [if_pos rfl, if_pos rfl]
  | false =>
    have hsame := hsame hd
    simp only [hsame.existsAt, hsame.isDirectory, Bool.false_eq_true, if_false]
    refine bind_congr_ok fun there _ => ?_
    split
    · rfl
    · refine bind_congr_ok fun isDirectory hdirectory => ?_
      split
      · rfl
      · next hthere =>
        obtain rfl : isDirectory = true := by simpa using hthere
        obtain ⟨names, hnames, hnames'⟩ := hsame.locate hdirectory
        have hlocate : (w.on v).volume.locate (w.on v).cwd (Path.ofString d) = .ok names := hnames'
        have hbelow : (w.on v).volume.filesBelow names = w.volume.filesBelow names :=
          hfiles names hnames
        rw [hlocate, hnames]
        simp only [hbelow]

theorem assetsOf_congr (h : SameFor c w r v) (story : Story) :
    c.assetsOf (w.on v) r story = c.assetsOf w r story := by
  unfold assetsOf
  cases hd : r.assets with
  | none => rfl
  | some d =>
    simp only [fromDirectory_congr (fun hempty => h.same _ (.assets hd hempty))
      fun names => h.assets d names hd]

theorem componentsOf_congr (h : ∀ p, Leads c w r tale p → w.Same v p) :
    componentsOf (w.on v) tale.script tale.scenes = componentsOf w tale.script tale.scenes := by
  unfold componentsOf
  rw [Lookup.usual_on]
  refine bind_congr_ok fun places hplaces => ?_
  have hplaces := mapError_eq_ok.mp hplaces
  rw [Mount.extract_congr fun d hd p hp => h p (.beside hplaces hd hp)]
  refine bind_congr_ok fun found hfound => ?_
  have hfound := mapError_eq_ok.mp hfound
  rw [Parts.load_congr fun request hrequest p hp => h p (.part hplaces hfound hrequest hp)]

theorem supplies_congr (h : SameFor c w r v) (htale : c.tell w r = .ok tale) :
    c.supplies (w.on v) r tale = c.supplies w r tale := by
  have hleads : ∀ p, Leads c w r tale p → w.Same v p := fun p hp => h.same p (.story htale hp)
  unfold supplies
  rw [assetsOf_congr h, componentsOf_congr hleads]

theorem draft_congr (h : SameFor c w r v) : c.draft (w.on v) r = c.draft w r := by
  unfold draft
  rw [tell_congr h, outfit_congr h]
  refine bind_congr_ok fun tale htale => ?_
  rw [supplies_congr h htale, Workspace.cwd_on]

/-- What is told of a draft's story and libraries. -/
theorem draft_ok {d : Draft} (h : c.draft w r = .ok d) :
    c.tell w r = .ok d.tale ∧ d.base = d.tale.base w ∧
      ∃ warnings, c.librariesOf r d.tale.story = .ok (d.supplies.libraries, warnings) := by
  unfold draft at h
  obtain ⟨tale, htale, h⟩ := bind_eq_ok.mp h
  obtain ⟨outfit, -, h⟩ := bind_eq_ok.mp h
  obtain ⟨supplies, hsupplies, h⟩ := bind_eq_ok.mp h
  cases h
  have hsupplies := mapError_eq_ok.mp hsupplies
  unfold Compiler.supplies at hsupplies
  obtain ⟨⟨libraries, warnings⟩, hlibraries, hsupplies⟩ := bind_eq_ok.mp hsupplies
  obtain ⟨assets, -, hsupplies⟩ := bind_eq_ok.mp hsupplies
  obtain ⟨components, -, hsupplies⟩ := bind_eq_ok.mp hsupplies
  cases hsupplies
  exact ⟨htale, rfl, warnings, mapError_eq_ok.mp hlibraries⟩

theorem customText_congr {label : String} {file : Option String}
    (h : ∀ f, file = some f → f.isEmpty = false → w.Same v (Path.ofString f)) :
    customText (w.on v) label file = customText w label file := by
  unfold customText
  cases hfile : file.filter fun f => !f.isEmpty with
  | none => rfl
  | some f =>
    obtain ⟨hgiven, hf⟩ := Option.filter_eq_some_iff.mp hfile
    have hsame := h f hgiven (by simpa using hf)
    simp only [hsame.readText]

theorem finish_congr (h : SameFor c w r v) (d : Draft) (bundle : Bundle) :
    c.finish (w.on v) r d bundle = c.finish w r d bundle := by
  have hstyle : customText (w.on v) "CSS" r.customStyle = customText w "CSS" r.customStyle :=
    customText_congr fun f hf hempty => h.same _ (.added (.inl hf) hempty)
  have hscript : customText (w.on v) "JS" r.customScript = customText w "JS" r.customScript :=
    customText_congr fun f hf hempty => h.same _ (.added (.inr hf) hempty)
  unfold finish
  rw [hstyle, hscript]

/-- A compile gives the same page on all volumes that are the same where it looks. -/
theorem compose_congr (h : SameFor c w r v) (fetch : Fetch.State) :
    c.compose r ⟨w.on v, fetch⟩ = c.compose r ⟨w, fetch⟩ := by
  unfold compose
  simp only [draft_congr h]
  cases hdraft : c.draft w r with
  | error e => rfl
  | ok d =>
    obtain ⟨htale, hbase, warnings, hlibraries⟩ := draft_ok hdraft
    have hlibrary : ∀ x ∈ d.supplies.libraries, ∀ p, Download.LooksAt w (some d.base) x p →
        w.Same v p := by
      intro x hx p hp
      rw [hbase] at hp
      exact h.same p (.story htale (.library hlibraries hx hp))
    simp only [Bundle.resolve_congr hlibrary, finish_congr h]

end Compiler
end Storybind
