import Mathlib.Tactic
import Storybind.Proofs.Compile.TwoVolumes
import Storybind.Proofs.Path
import Storybind.Service.Answer

/-!
What clients of the service reach. The paths that they send stay in the directory of the service; what
else of the files a compile depends on is the player and the places to which the story itself leads, its
components and its libraries that are files.
-/

namespace Storybind

open Volume (AgreeIn Into Near)

/-! ### Paths that clients send -/

namespace Path

variable {cwd p : Path}

theorem mem_foldl_descend {done names : List String} {n : String}
    (h : n ∈ names.foldl descend done) : n ∈ done ∨ n ∈ names := by
  induction names generalizing done with
  | nil => exact Or.inl h
  | cons m rest ih =>
    rcases ih h with hdone | hrest
    · unfold descend at hdone
      split at hdone
      · exact Or.inl (List.mem_of_mem_dropLast hdone)
      · rcases List.mem_append.mp hdone with hdone | hm
        · exact Or.inl hdone
        · exact Or.inr (List.mem_singleton.mp hm ▸ List.mem_cons_self)
    · exact Or.inr (List.mem_cons_of_mem m hrest)

theorem Normal.resolve (hcwd : cwd.Normal) (hp : p.Normal) : (resolve cwd p).Normal where
  anchor := Or.inr (Or.inl rfl)
  names := by
    intro n hn
    rcases mem_foldl_descend hn with hnil | hmem
    · exact absurd hnil List.not_mem_nil
    · exact (hcwd.append hp).names n hmem

end Path

namespace Service

variable {w : Workspace} {v : Volume} {root p : Path} {s label value : String}

/-- A full path in a directory. -/
structure Below (root p : Path) : Prop where
  normal : p.Normal
  anchor : p.anchor = root.anchor
  absolute : p.isAbsolute = true
  plain : ".." ∉ p.names
  names : root.names <+: p.names

theorem below_of_inside (hcwd : w.cwd.Normal) (hroot : root.Normal)
    (h : inside w root label value = .ok p) : Below root p := by
  unfold inside Lookup.fullPath at h
  split at h
  · cases h
  · next full hfull =>
    split at hfull
    · cases hfull
    · cases hfull
      split at h
      · next hwithin =>
        cases h
        simp only [Path.isWithin, Bool.and_eq_true, decide_eq_true_eq, List.isPrefixOf_iff_prefix]
          at hwithin
        exact {
          normal := hcwd.resolve (hroot.append (Path.normal_ofString value))
          anchor := hwithin.1.symm
          absolute := rfl
          plain := Path.plain_resolve _ _
          names := hwithin.2 }
      · cases h

theorem normal_workdir {settings : Settings} (hcwd : w.cwd.Normal)
    (h : workdir w settings = .ok root) : root.Normal := by
  unfold workdir Lookup.fullPath at h
  split at h
  · cases h
  · cases h
    exact hcwd.resolve (Path.normal_ofString _)

/-- Whether a text is that of a full path in a directory. -/
def Sent (root : Path) (s : String) : Prop := Below root (Path.ofString s)

theorem Below.sent (h : Below root p) : Sent root p.toText := by
  unfold Sent
  rwa [Path.ofString_toText h.normal]

theorem Below.into (h : Below root p) : Into root.names p := ⟨h.absolute, h.plain, Or.inl h.names⟩

theorem sent_of_insideIfGiven {given : Option String} (hcwd : w.cwd.Normal) (hroot : root.Normal)
    (h : insideIfGiven w root label given = .ok (some s)) : Sent root s := by
  unfold insideIfGiven at h
  split at h
  · cases h
  · split at h
    · cases h
    · obtain ⟨p, hp, hs⟩ := Except.map_eq_ok.mp h
      cases hs
      exact (below_of_inside hcwd hroot hp).sent

namespace Order

variable {o : Order} {r : Request} {output : Path}

/-- Whether all paths of a request lie in a directory. -/
structure Confines (root : Path) (r : Request) (output : Path) : Prop where
  input : r.input.toList.contains '\n' = false → Sent root r.input
  page : Below root output
  place : Path.ofString r.output = output
  assets : ∀ d, r.assets = some d → Sent root d
  style : ∀ f, r.customStyle = some f → Sent root f
  script : ∀ f, r.customScript = some f → Sent root f

theorem sent_of_source (hcwd : w.cwd.Normal) (hroot : root.Normal) (h : o.source w root = .ok s)
    (hpath : s.toList.contains '\n' = false) : Sent root s := by
  unfold source at h
  split at h
  · next story _ =>
    -- a story that is sent along ends in a line break
    split at h
    · next hline =>
      cases h
      rw [hline] at hpath
      cases hpath
    · cases h
      simp at hpath
  · split at h
    · obtain ⟨p, hp, hs⟩ := Except.map_eq_ok.mp h
      cases hs
      exact (below_of_inside hcwd hroot hp).sent
    · cases h

theorem below_of_target (hcwd : w.cwd.Normal) (hroot : root.Normal)
    (h : o.target w root = .ok output) : Below root output := by
  unfold target at h
  obtain ⟨p, hp, h⟩ := Except.bind_eq_ok.mp h
  split at h
  · cases h
    exact below_of_inside hcwd hroot hp
  · cases h

theorem confines_of_place (hcwd : w.cwd.Normal) (hroot : root.Normal)
    (h : o.place w root = .ok (r, output)) :
    o.target w root = .ok output ∧ Confines root r output := by
  unfold place at h
  obtain ⟨input, hinput, h⟩ := Except.bind_eq_ok.mp h
  obtain ⟨page, hpage, h⟩ := Except.bind_eq_ok.mp h
  obtain ⟨assets, hassets, h⟩ := Except.bind_eq_ok.mp h
  obtain ⟨style, hstyle, h⟩ := Except.bind_eq_ok.mp h
  obtain ⟨script, hscript, h⟩ := Except.bind_eq_ok.mp h
  cases h
  have hbelow := below_of_target hcwd hroot hpage
  refine ⟨hpage, fun hpath => sent_of_source hcwd hroot hinput hpath, hbelow,
    Path.ofString_toText hbelow.normal, fun d hd => ?_, fun f hf => ?_, fun f hf => ?_⟩
  · exact sent_of_insideIfGiven hcwd hroot (hassets.trans (congrArg Except.ok hd))
  · exact sent_of_insideIfGiven hcwd hroot (hstyle.trans (congrArg Except.ok hf))
  · exact sent_of_insideIfGiven hcwd hroot (hscript.trans (congrArg Except.ok hf))

end Order

/-! ### What a compile for a client depends on -/

/-- Whether two volumes hold the same in a directory: the same entries, and the same files in each
listing. -/
structure SameIn (root : List String) (v v' : Volume) : Prop where
  entries : AgreeIn root v v'
  listings : ∀ names, root <+: names → v'.filesBelow names = v.filesBelow names

/-- What another volume shares for an order: the directory of the service, the files of the player, and
all to which the story leads. -/
structure Shares (c : Compiler) (o : Order) (w : Workspace) (v : Volume) (root : Path) : Prop where
  directory : SameIn root.names w.volume v
  player : ∀ p, c.player.Reads p → w.Same v p
  story : ∀ r output tale p, o.place w root = .ok (r, output) → c.tell w r = .ok tale →
    c.Leads w r tale p → w.Same v p

variable {c : Compiler} {o : Order} {r : Request} {output : Path}

theorem Sent.same (h : Sent root s) (hagree : AgreeIn root.names w.volume v) :
    w.Same v (Path.ofString s) :=
  hagree.entry h.into w.cwd

theorem Shares.sameFor (h : Shares c o w v root) (hplace : o.place w root = .ok (r, output))
    (hr : Order.Confines root r output) : Compiler.SameFor c w r v where
  same := by
    intro p hp
    have hagree := h.directory.entries
    cases hp with
    | input hpath => exact (hr.input hpath).same hagree
    | player hp => exact h.player p hp
    | assets hd _ => exact (hr.assets _ hd).same hagree
    | added hf _ =>
      rcases hf with hf | hf
      · exact (hr.style _ hf).same hagree
      · exact (hr.script _ hf).same hagree
    | story htale hp => exact h.story r output _ p hplace htale hp
  assets := by
    intro d names hd hnames
    have hbelow : Below root (Path.ofString d) := hr.assets d hd
    refine h.directory.listings names ?_
    rw [hbelow.into.locate_ok hnames]
    exact hbelow.names

/-- A page that is not the directory itself has its temporary file in the directory. -/
theorem Below.inside (h : Below root p) (hne : p ≠ root) : Output.Inside root.names p where
  into := h.into
  parent := by
    obtain ⟨rest, hrest⟩ := h.names
    -- two full paths of the same names are one path
    have hsome : rest ≠ [] := by
      rintro rfl
      rw [List.append_nil] at hrest
      obtain ⟨anchor, names⟩ := p
      obtain ⟨anchor', names'⟩ := root
      have hanchor : anchor = anchor' := h.anchor
      have hnames : names' = names := hrest
      exact hne (by rw [hanchor, hnames])
    change root.names <+: p.names.dropLast
    rw [← hrest, List.dropLast_append_of_ne_nil hsome]
    exact List.prefix_append _ _

theorem inside_on (w : Workspace) (v : Volume) (root : Path) (label value : String) :
    inside (w.on v) root label value = inside w root label value := by
  unfold inside
  rw [Lookup.fullPath_on]

theorem place_on (o : Order) (w : Workspace) (v : Volume) (root : Path) :
    o.place (w.on v) root = o.place w root := by
  unfold Order.place Order.source Order.target insideIfGiven
  simp only [inside_on]

theorem sameIn_append {names : List String} {entries more : List (List String × Entry)}
    (h : ∀ x ∈ more, ¬Near names x.1) : SameIn names ⟨entries⟩ ⟨entries ++ more⟩ where
  entries := by
    intro m hm
    have hnone : more.lookup m = none := by
      refine List.lookup_eq_none_iff.mpr fun x hx => ?_
      have hne : m ≠ x.1 := fun heq => h x hx (heq ▸ hm)
      simpa using hne
    by_cases hnil : m = []
    · rw [hnil, Volume.find?_nil, Volume.find?_nil]
    · rw [Volume.find?_of_ne_nil hnil, Volume.find?_of_ne_nil hnil, List.lookup_append, hnone,
        Option.or_none]
  listings := by
    intro m hm
    have hkept {f : List String × Entry → Option (List String × Bytes)}
        (hf : ∀ x ∈ more, f x = none) : (entries ++ more).filterMap f = entries.filterMap f := by
      rw [List.filterMap_append, List.filterMap_eq_nil_iff.mpr hf, List.append_nil]
    unfold Volume.filesBelow
    dsimp only
    rw [hkept fun x hx => ?_]
    split
    · refine if_neg fun hbelow => h x hx (Or.inl ?_)
      rw [Bool.and_eq_true, List.isPrefixOf_iff_prefix] at hbelow
      exact hm.trans hbelow.1
    · rfl

/-- A service that works in a directory beside its player. -/
def shop : Compiler :=
  { Compiler.booth Output.noRefusals with
    settings := { (Compiler.booth Output.noRefusals).settings with workdir := "/site" } }

/-- The directory, with a script of a component, and the player. -/
def premises : List (List String × Entry) :=
  [(["player"], .directory), (["player", "assets"], .directory),
    (["player", "assets", "template.html"], .file (Text.encode "\x7b\x7bRUNTIME_SCRIPTS\x7d\x7d")),
    (["site"], .directory), (["site", "menu.js"], .file (Text.encode "menu"))]

/-- A file elsewhere. -/
def secret : List (List String × Entry) := [(["secret.js"], .file (Text.encode "secret"))]

def house : Workspace := ⟨⟨premises⟩, ⟨"/", []⟩, ⟨"/", []⟩, ⟨"/", []⟩⟩

/-- The order for a story with one component. -/
def orderOf (script : String) : Order :=
  ⟨none, some ("scenes:\n  start:\n    - '\x7b\x7bcomponent \"create\" \"A\" \"" ++ script ++
    "\" \"/site/menu.css\" \"a\" \"\"\x7d\x7d'\n"), "out.html", none, none, none, false, none, none,
    .empty, []⟩

/-- What the room next door holds besides. -/
def neighbour : Volume := ⟨premises ++ secret⟩

def cold : Fetch.State := ⟨.empty, .empty true⟩

theorem workdir_shop : workdir house shop.settings = .ok ⟨"/", ["site"]⟩ := by decide +kernel

theorem sameIn_neighbour {names : List String} (h : ¬Near names ["secret.js"]) :
    SameIn names house.volume neighbour :=
  sameIn_append (List.forall_mem_singleton.mpr h)

theorem same_player {p : Path} (hp : shop.player.Reads p) : house.Same neighbour p := by
  have hnear : ¬Near ["player"] ["secret.js"] := by
    unfold Near
    decide
  have hfiles : ∀ f ∈ Player.files, ((Path.ofString "/player").child f).isAbsolute = true ∧
      ".." ∉ ((Path.ofString "/player").child f).names ∧
      ["player"] <+: ((Path.ofString "/player").child f).names := by decide +kernel
  have htemplate : shop.player.templatePath? = some ⟨"/", ["player", "assets", "template.html"]⟩ := by
    decide +kernel
  have hinto : Into ["player"] p := by
    cases hp with
    | template h =>
      cases htemplate.symm.trans h
      exact ⟨rfl, by decide, Or.inl (by decide)⟩
    | file hd hf =>
      cases hd
      obtain ⟨habsolute, hplain, hbelow⟩ := hfiles _ hf
      exact ⟨habsolute, hplain, Or.inl hbelow⟩
  exact (sameIn_neighbour hnear).entries.entry hinto house.cwd

/-- Whether a story asks for none but given files: all its style sheets are named, and it has no
libraries. -/
def asksOnly (c : Compiler) (w : Workspace) (r : Request) (tale : Tale) (texts : List String) : Bool :=
  (tale.scenes.all fun record =>
    match Scene.ofRecord? record with
    | .ok (some scene) => (Mount.sceneTokens scene).all fun
      | (_, .directive d) => d.stylesheet.isSome
      | _ => true
    | _ => true) &&
  ((Lookup.usual w tale.script).toOption.all fun places =>
    (Mount.extract w places tale.scenes).toOption.all fun found =>
      (Parts.requests found.mounts).all fun request => texts.contains request.2.1) &&
  (c.librariesOf r tale.story).toOption.all fun libraries => libraries.1.isEmpty

theorem leads_of_asksOnly {tale : Tale} {texts : List String} (h : asksOnly c w r tale texts = true)
    (habsolute : ∀ s ∈ texts, (Path.ofString s).isAbsolute = true) (hp : c.Leads w r tale p) :
    ∃ s ∈ texts, p = Path.ofString s := by
  simp only [asksOnly, Bool.and_eq_true] at h
  obtain ⟨⟨hsheets, hparts⟩, hlibraries⟩ := h
  cases hp with
  | beside hplaces hd hp =>
    obtain ⟨record, hrecord, scene, index, hscene, htoken⟩ := hd
    have hrecord := List.all_eq_true.mp hsheets record hrecord
    rw [hscene] at hrecord
    have hnamed := List.all_eq_true.mp hrecord _ htoken
    cases hp with
    | intro hnone hbase hs hp =>
      simp only [hnone] at hnamed
      cases hnamed
  | part hplaces hfound hrequest hp =>
    rw [hplaces] at hparts
    simp only [Except.toOption, Option.all_some, hfound] at hparts
    have hasked := List.all_eq_true.mp hparts _ hrequest
    have htext := List.contains_iff_mem.mp hasked
    refine ⟨_, htext, ?_⟩
    have hexpand : w.expandHome? (Path.ofString _) = some (Path.ofString _) :=
      if_pos (habsolute _ htext)
    cases hp with
    | absolute hgiven hpath _ => exact (Option.some.inj (hexpand.symm.trans hpath)).symm
    | below hgiven hpath hrelative _ =>
      cases hexpand.symm.trans hpath
      exact absurd (habsolute _ htext) hrelative
  | library hgathered hd hp =>
    rw [hgathered] at hlibraries
    simp only [Except.toOption, Option.all_some, List.isEmpty_iff] at hlibraries
    rw [hlibraries] at hd
    cases hd

theorem target_menu : (orderOf "/site/menu.js").target house ⟨"/", ["site"]⟩ =
    .ok ⟨"/", ["site", "out.html"]⟩ := by decide +kernel

theorem asksOnly_menu :
    (((orderOf "/site/menu.js").place house ⟨"/", ["site"]⟩).toOption.all fun x =>
      (shop.tell house x.1).toOption.all fun tale =>
        asksOnly shop house x.1 tale ["/site/menu.js", "/site/menu.css"]) = true := by
  decide +kernel

theorem shares_menu : Shares shop (orderOf "/site/menu.js") house neighbour ⟨"/", ["site"]⟩ := by
  have hnear : ¬Near ["site"] ["secret.js"] := by
    unfold Near
    decide
  have hpaths : ∀ s ∈ ["/site/menu.js", "/site/menu.css"], (Path.ofString s).isAbsolute = true ∧
      ".." ∉ (Path.ofString s).names ∧ ["site"] <+: (Path.ofString s).names := by decide +kernel
  refine ⟨sameIn_neighbour hnear, fun p hp => same_player hp, ?_⟩
  intro r output tale p hplace htale hp
  have hasks := asksOnly_menu
  rw [hplace] at hasks
  simp only [Except.toOption, Option.all_some, htale] at hasks
  obtain ⟨s, hs, rfl⟩ := leads_of_asksOnly hasks (fun s hs => (hpaths s hs).1) hp
  obtain ⟨habsolute, hplain, hbelow⟩ := hpaths s hs
  exact (sameIn_neighbour hnear).entries.entry ⟨habsolute, hplain, Or.inl hbelow⟩ house.cwd

end Service
end Storybind
