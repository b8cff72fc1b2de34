import Mathlib.Tactic
import Storybind.Proofs.Service.Confinement
import Storybind.Proofs.Text.Naming

/-!
Paths that clients send are resolved before anything else is done with them. Those that are handed
on lie in the directory of the service; where one lies outside, the request is refused and nothing
is changed, unless a path cannot be resolved at all because it holds a NUL character.
-/

namespace Storybind

namespace Text

theorem mem_splitChars {mark c : Char} {s : List Char} (hc : c ≠ mark) :
    c ∈ s ↔ ∃ p ∈ splitChars mark s, c ∈ p := by
  induction s with
  | nil => simp [splitChars]
  | cons d s ih =>
    rw [List.mem_cons, ih, splitChars]
    split
    · next hd =>
      have hne : c ≠ d := fun h => hc (h.trans hd)
      simp [hne]
    · split
      · next hnone => simp [hnone]
      · next p ps hsome => simp [hsome, or_assoc]

end Text

namespace Path

variable {p q : Path} {c : Char}

theorem holds_ofString {s : String} (hslash : c ≠ '/') (hpoint : c ≠ '.') :
    (ofString s).Holds c ↔ c ∈ s.toList := by
  rw [Text.mem_splitChars hslash]
  constructor
  · rintro ⟨n, hn, hc⟩
    obtain ⟨cs, hcs, rfl⟩ := List.mem_map.mp (List.mem_filter.mp hn).1
    exact ⟨cs, hcs, by rwa [String.toList_ofList] at hc⟩
  · rintro ⟨cs, hcs, hc⟩
    refine ⟨String.ofList cs, List.mem_filter.mpr ⟨List.mem_map_of_mem hcs, ?_⟩, ?_⟩
    -- a name that holds the character is neither empty nor a point
    · have hempty : String.ofList cs ≠ "" := by
        intro h
        have hcs := congrArg String.toList h
        rw [String.toList_ofList] at hcs
        rw [hcs] at hc
        exact List.not_mem_nil hc
      have hdot : String.ofList cs ≠ "." := by
        intro h
        have hcs := congrArg String.toList h
        rw [String.toList_ofList] at hcs
        rw [hcs] at hc
        exact hpoint (List.mem_singleton.mp hc)
      simp [hempty, hdot]
    · rwa [String.toList_ofList]

theorem holds_append (hp : ¬p.Holds c) : (p ++ q : Path).Holds c ↔ q.Holds c := by
  change (Path.append p q).Holds c ↔ _
  unfold append
  split
  · rfl
  · constructor
    · rintro ⟨n, hn, hc⟩
      rcases List.mem_append.mp hn with hn | hn
      · exact absurd ⟨n, hn, hc⟩ hp
      · exact ⟨n, hn, hc⟩
    · rintro ⟨n, hn, hc⟩
      exact ⟨n, List.mem_append_right _ hn, hc⟩

theorem not_holds_resolve {cwd : Path} (hcwd : ¬cwd.Holds c) (hp : ¬p.Holds c) :
    ¬(resolve cwd p).Holds c := by
  rintro ⟨n, hn, hc⟩
  rcases mem_foldl_descend hn with hnil | hmem
  · exact List.not_mem_nil hnil
  · exact hp ((holds_append hcwd).mp ⟨n, hmem, hc⟩)

end Path

namespace Service

variable {w : Workspace} {root p : Path} {label value : String}

/-- The place that a client means: the path it sends, from the directory, with every `.` and `..`
resolved. -/
def meant (w : Workspace) (root : Path) (value : String) : Path := w.resolve (root.child value)

/-- Whether a client means a place that is neither the directory nor below it, name by name. -/
def Outside (w : Workspace) (root : Path) (value : String) : Prop :=
  ¬root.names <+: (meant w root value).names

/-- A directory that the service can work in. -/
structure Usable (w : Workspace) (root : Path) : Prop where
  normal : root.Normal
  anchor : root.anchor = "/"
  plain : ".." ∉ root.names
  noNul : ¬root.Holds '\x00'

theorem usable_workdir {settings : Settings} (hcwd : w.cwd.Normal)
    (hnul : '\x00' ∉ w.cwd.toText.toList) (h : workdir w settings = .ok root) : Usable w root := by
  have hnormal := normal_workdir hcwd h
  unfold workdir Lookup.fullPath at h
  split at h
  · cases h
  · next hheld =>
    cases h
    have hgiven : ¬(Path.ofString settings.workdir).Holds '\x00' := by
      rw [← Path.mem_toText (Path.normal_ofString _) (by decide) (by decide)]
      simpa using hheld
    rw [Path.mem_toText hcwd (by decide) (by decide)] at hnul
    exact ⟨hnormal, rfl, Path.plain_resolve _ _, Path.not_holds_resolve hnul hgiven⟩

/-- A path that is sent is looked at: it cannot be resolved, it lies outside, or it stands for the
place that is meant. -/
theorem inside_cases (hroot : Usable w root) (label value : String) :
    '\x00' ∈ value.toList ∧ inside w root label value = .error (.unresolved .nulInPath) ∨
      Outside w root value ∧ inside w root label value = .error (.refused (.outside label value)) ∨
      ¬Outside w root value ∧ inside w root label value = .ok (meant w root value) := by
  have hheld : '\x00' ∈ (root.child value).toText.toList ↔ '\x00' ∈ value.toList := by
    have hnormal : (root.child value).Normal := hroot.normal.append (Path.normal_ofString value)
    rw [Path.mem_toText hnormal (by decide) (by decide),
      ← Path.holds_ofString (by decide : '\x00' ≠ '/') (by decide)]
    exact Path.holds_append hroot.noNul
  have hwithin : root.isWithin (meant w root value) = true ↔ ¬Outside w root value := by
    have hanchor : (meant w root value).anchor = "/" := rfl
    rw [Path.isWithin, hroot.anchor, hanchor, Outside, not_not, ← List.isPrefixOf_iff_prefix]
    simp
  unfold inside Lookup.fullPath
  by_cases hnul : '\x00' ∈ value.toList
  · have hcontains := List.contains_iff_mem.mpr (hheld.mpr hnul)
    rw [hcontains, if_pos rfl]
    exact Or.inl ⟨hnul, rfl⟩
  · have hcontains : (root.child value).toText.toList.contains '\x00' = false := by
      simpa using mt hheld.mp hnul
    rw [hcontains, if_neg Bool.false_ne_true]
    by_cases hout : Outside w root value
    · exact Or.inr (Or.inl ⟨hout, if_neg (mt hwithin.mp (not_not.mpr hout))⟩)
    · exact Or.inr (Or.inr ⟨hout, if_pos (hwithin.mpr hout)⟩)

theorem below_meant (hcwd : w.cwd.Normal) (hroot : Usable w root) (h : ¬Outside w root value) :
    Below root (meant w root value) where
  normal := hcwd.resolve (hroot.normal.append (Path.normal_ofString value))
  anchor := hroot.anchor.symm
  absolute := rfl
  plain := Path.plain_resolve _ _
  names := not_not.mp h

/-! ### What an order hands on -/

/-- Whether a request that sends some paths, by the names of their fields, ends as it should: with
status 400, or, where one of the paths holds a NUL character, because that cannot be resolved. -/
def Halt.Stops (paths : List (String × String)) : Halt → Prop
  | .refused r => r.status = 400
  | .unresolved e => e = .nulInPath ∧ ∃ s ∈ paths, '\x00' ∈ s.2.toList

theorem Halt.Stops.mono {halt : Halt} {paths paths' : List (String × String)}
    (h : halt.Stops paths) (hsub : paths ⊆ paths') : halt.Stops paths' := by
  cases halt with
  | refused r => exact h
  | unresolved e =>
    obtain ⟨he, s, hs, hnul⟩ := h
    exact ⟨he, s, hsub hs, hnul⟩

/-- Whether a step looks at some paths before it gives anything: it stops as it should, or all of
them lie in the directory. -/
structure Checks {α : Type} (w : Workspace) (root : Path) (paths : List (String × String))
    (x : Except Halt α) (post : α → Prop) : Prop where
  stops : ∀ halt, x = .error halt → halt.Stops paths
  gives : ∀ a, x = .ok a → (∀ s ∈ paths, ¬Outside w root s.2) ∧ post a

namespace Checks

variable {α β : Type} {paths paths' : List (String × String)} {post : α → Prop} {goal : β → Prop}

theorem ok (w : Workspace) (root : Path) {a : α} (h : post a) : Checks w root [] (.ok a) post where
  stops := nofun
  gives := by
    rintro _ ⟨⟩
    exact ⟨nofun, h⟩

theorem refused (w : Workspace) (root : Path) {r : Refusal} (h : r.status = 400) :
    Checks w root [] (.error (.refused r)) post where
  stops := by
    rintro _ ⟨⟩
    exact h
  gives := nofun

theorem map {x : Except Halt α} {f : α → β} (hx : Checks w root paths x post)
    (hf : ∀ a, post a → goal (f a)) : Checks w root paths (x.map f) goal := by
  cases x with
  | error halt =>
    refine ⟨?_, nofun⟩
    rintro _ ⟨⟩
    exact hx.stops halt rfl
  | ok a =>
    refine ⟨nofun, ?_⟩
    rintro _ ⟨⟩
    exact ⟨(hx.gives a rfl).1, hf a (hx.gives a rfl).2⟩

theorem bind {x : Except Halt α} {f : α → Except Halt β} (hx : Checks w root paths x post)
    (hf : ∀ a, post a → Checks w root paths' (f a) goal) :
    Checks w root (paths ++ paths') (x >>= f) goal := by
  cases x with
  | error halt =>
    refine ⟨?_, nofun⟩
    rintro _ ⟨⟩
    exact (hx.stops halt rfl).mono (List.subset_append_left _ _)
  | ok a =>
    obtain ⟨hin, ha⟩ := hx.gives a rfl
    refine ⟨fun halt h => ((hf a ha).stops halt h).mono (List.subset_append_right _ _),
      fun b hb => ?_⟩
    obtain ⟨hin', hb⟩ := (hf a ha).gives b hb
    exact ⟨List.forall_mem_append.mpr ⟨hin, hin'⟩, hb⟩

end Checks

theorem checks_inside (hroot : Usable w root) (label value : String) :
    Checks w root [(label, value)] (inside w root label value) (· = meant w root value) := by
  obtain ⟨hnul, heq⟩ | ⟨-, heq⟩ | ⟨hin, heq⟩ := inside_cases hroot label value
  · rw [heq]
    refine ⟨?_, nofun⟩
    rintro _ ⟨⟩
    exact ⟨rfl, _, List.mem_cons_self, hnul⟩
  · rw [heq]
    refine ⟨?_, nofun⟩
    rintro _ ⟨⟩
    rfl
  · rw [heq]
    refine ⟨nofun, ?_⟩
    rintro _ ⟨⟩
    exact ⟨List.forall_mem_singleton.mpr hin, rfl⟩

/-- A value that is there and not empty. -/
def given (value : Option String) : Option String := value.filter fun s => !s.isEmpty

/-- A path that may be sent, under the name of its field. -/
def labelled (label : String) (value : Option String) : List (String × String) :=
  (given value).toList.map (label, ·)

theorem checks_insideIfGiven (hroot : Usable w root) (label : String) (value : Option String) :
    Checks w root (labelled label value) (insideIfGiven w root label value)
      (· = (given value).map fun s => (meant w root s).toText) := by
  unfold insideIfGiven labelled given
  cases value with
  | none => exact Checks.ok w root rfl
  | some s =>
    rw [Option.filter_some]
    dsimp only
    split
    · next hgiven =>
      rw [Bool.not_eq_true'] at hgiven
      rw [hgiven]
      refine (checks_inside hroot label s).map ?_
      rintro _ rfl
      rfl
    · next hempty =>
      rw [Bool.not_eq_true, Bool.not_eq_false'] at hempty
      rw [hempty]
      exact Checks.ok w root rfl

namespace Order

variable {o : Order} {r : Request} {output : Path} {s : String}

/-- The path of the story, where no story is sent along. -/
def sentInput (o : Order) : List (String × String) :=
  if (given o.story).isSome then [] else labelled "input" o.input

/-- The paths that an order sends, by the names of their fields. -/
def sent (o : Order) : List (String × String) :=
  o.sentInput ++ (("output", o.output) :: (labelled "assets_dir" o.assets ++
    (labelled "custom_css" o.customStyle ++ labelled "custom_js" o.customScript)))

/-- Whether each path that is handed to the compiler is that of the place that is meant. -/
structure Handed (w : Workspace) (root : Path) (o : Order) (r : Request) (output : Path) :
    Prop where
  input : given o.story = none →
    ∃ value, given o.input = some value ∧ r.input = (meant w root value).toText
  page : output = meant w root o.output
  output : r.output = (meant w root o.output).toText
  assets : r.assets = (given o.assets).map fun s => (meant w root s).toText
  style : r.customStyle = (given o.customStyle).map fun s => (meant w root s).toText
  script : r.customScript = (given o.customScript).map fun s => (meant w root s).toText

theorem checks_source (hroot : Usable w root) (o : Order) :
    Checks w root o.sentInput (o.source w root) fun s => given o.story = none →
      ∃ value, given o.input = some value ∧ s = (meant w root value).toText := by
  unfold source sentInput labelled given
  cases o.story.filter fun s => !s.isEmpty with
  | some story => exact Checks.ok w root nofun
  | none =>
    cases o.input.filter fun s => !s.isEmpty with
    | none => exact Checks.refused w root rfl
    | some value =>
      refine (checks_inside hroot "input" value).map ?_
      rintro _ rfl _
      exact ⟨value, rfl, rfl⟩

theorem checks_target (hroot : Usable w root) (o : Order) :
    Checks w root [("output", o.output)] (o.target w root) (· = meant w root o.output) := by
  have hsuffix : ∀ p, p = meant w root o.output →
      Checks w root [] (if pageSuffixes.contains (Text.lower p.suffix) then pure p
        else throw (.refused .noPage)) (· = meant w root o.output) := by
    intro p hp
    split
    · exact Checks.ok w root hp
    · exact Checks.refused w root rfl
  exact (checks_inside hroot "output" o.output).bind hsuffix

/-- An order is handed on with the places that its paths mean, if all of these lie in the directory;
it stops otherwise. -/
theorem checks_place (hroot : Usable w root) (o : Order) :
    Checks w root o.sent (o.place w root) fun x => Handed w root o x.1 x.2 := by
  rw [← List.append_nil o.sent, sent, List.append_assoc, List.cons_append, List.append_assoc,
    List.append_assoc]
  refine (checks_source hroot o).bind fun input hinput => ?_
  refine (checks_target hroot o).bind fun page hpage => ?_
  refine (checks_insideIfGiven hroot "assets_dir" o.assets).bind fun assets hassets => ?_
  refine (checks_insideIfGiven hroot "custom_css" o.customStyle).bind fun style hstyle => ?_
  refine (checks_insideIfGiven hroot "custom_js" o.customScript).bind fun script hscript => ?_
  exact Checks.ok w root ⟨hinput, hpage, congrArg Path.toText hpage, hassets, hstyle, hscript⟩

end Order

/-! ### Games -/

/-- The characters that the name of a game is made of. -/
def gameNaming : Text.Naming where
  first := Text.IsLetterOrDigit
  others c := Text.IsLetterOrDigit c ∨ c = '_' ∨ c = '.' ∨ c = '-'
  first_break := Text.not_isLetterOrDigit_break
  others_break := by decide

theorem isGameNameChar_iff (c : Char) : isGameNameChar c = true ↔ gameNaming.others c := by
  simp only [isGameNameChar, Bool.or_eq_true, decide_eq_true_eq, Text.isAsciiAlnum_iff, or_assoc,
    gameNaming]

theorem isGameName_iff {name : String} : isGameName name = true ↔ gameNaming.FitsLine name := by
  have hread : isGameName name = Text.readsName Text.isAsciiAlnum isGameNameChar name := rfl
  rw [hread]
  exact Text.Naming.readsName_iff (fun _ => Text.isAsciiAlnum_iff) isGameNameChar_iff

/-- A character that the file of a game may have in its name. -/
def isFileChar (c : Char) : Bool := isGameNameChar c || c = '\n'

theorem chars_of_isGameName {name : String} (h : isGameName name = true) :
    (∃ c rest, name.toList = c :: rest ∧ Text.isAsciiAlnum c = true) ∧
      ∀ d ∈ name.toList, isFileChar d = true := by
  have hfits := isGameName_iff.mp h
  obtain ⟨c, rest, hname, hc⟩ := hfits.exists_first
  refine ⟨⟨c, rest, hname, Text.isAsciiAlnum_iff.mpr hc⟩, fun d hd => ?_⟩
  rw [isFileChar, Bool.or_eq_true, decide_eq_true_eq, isGameNameChar_iff]
  rcases hfits.chars d hd with hfirst | hother | hbreak
  · exact .inl (.inl hfirst)
  · exact .inl hother
  · exact .inr hbreak

/-- A text that is one name, neither `.` nor `..`. -/
structure Single (s : String) : Prop where
  path : Path.ofString s = ⟨"", [s]⟩
  plain : s ≠ ".."
  noNul : '\x00' ∉ s.toList

theorem single_gameFile {name : String} (h : isGameName name = true) : Single (gameFile name) := by
  obtain ⟨⟨c, rest, hname, hc⟩, hchars⟩ := chars_of_isGameName h
  have hsuffix : ∀ d ∈ ".html".toList, isFileChar d = true := List.all_eq_true.mp rfl
  have hfile : (∃ rest, (gameFile name).toList = c :: rest) ∧
      ∀ d ∈ (gameFile name).toList, isFileChar d = true := by
    unfold gameFile
    split
    · exact ⟨⟨rest, hname⟩, hchars⟩
    · rw [String.toList_append, List.forall_mem_append]
      exact ⟨⟨rest ++ ".html".toList, by rw [hname]; rfl⟩, hchars, hsuffix⟩
  obtain ⟨⟨rest, hhead⟩, hchars⟩ := hfile
  have hslash : '/' ∉ (gameFile name).toList := fun hd => absurd (hchars _ hd) (by decide)
  have hnul : '\x00' ∉ (gameFile name).toList := fun hd => absurd (hchars _ hd) (by decide)
  -- a name that starts with a letter or a digit does not start with a point
  have hpoint : '.' ≠ c := by
    rintro rfl
    exact absurd hc (by decide)
  have hother {s : String} (hs : s.toList.head? ≠ some c) : gameFile name ≠ s := by
    rintro rfl
    rw [hhead] at hs
    exact hs rfl
  have hdot : gameFile name ≠ "." := hother fun heq => hpoint (Option.some.inj heq)
  have hdots : gameFile name ≠ ".." := hother fun heq => hpoint (Option.some.inj heq)
  have hnormal : Path.Normal ⟨"", [gameFile name]⟩ :=
    ⟨Or.inl rfl, List.forall_mem_singleton.mpr ⟨hother nofun, hdot, hslash⟩⟩
  have htext : Path.toText ⟨"", [gameFile name]⟩ = gameFile name := by
    rw [Path.toText, Text.join, String.intercalate_singleton]
    exact String.empty_append
  refine ⟨?_, hdots, hnul⟩
  have hread := Path.ofString_toText hnormal
  rwa [htext] at hread

/-- The place of a single name is right in the directory. -/
theorem inside_single (hroot : Usable w root) (label : String) (h : Single value) :
    inside w root label value = .ok ⟨"/", root.names ++ [value]⟩ := by
  have hmeant : meant w root value = ⟨"/", root.names ++ [value]⟩ := by
    have hchild : root.child value = ⟨root.anchor, root.names ++ [value]⟩ := by
      rw [Path.child, h.path]
      rfl
    have hplain : ".." ∉ root.names ++ [value] := by
      rw [List.mem_append, List.mem_singleton]
      exact not_or.mpr ⟨hroot.plain, fun heq => h.plain heq.symm⟩
    rw [meant, hchild, hroot.anchor]
    exact congrArg (Path.mk "/") (Path.resolve_of_plain hplain w.cwd)
  obtain ⟨hnul, -⟩ | ⟨hout, -⟩ | ⟨-, heq⟩ := inside_cases hroot label value
  · exact absurd hnul h.noNul
  · rw [Outside, hmeant] at hout
    exact absurd (List.prefix_append _ _) hout
  · rw [heq, hmeant]

/-- A reply that hands out a page is the text of a file right in the directory. -/
theorem gameReply_child {settings : Settings} {name : String} {reply : Reply}
    (hworkdir : workdir w settings = .ok root) (hroot : Usable w root)
    (hname : isGameName name = true) (hreply : gameReply w settings name = .ok reply)
    (hok : reply.status = 200) :
    ∃ s, w.readText ⟨"/", root.names ++ [gameFile name]⟩ = .ok s ∧ reply = ⟨200, .page s⟩ := by
  unfold gameReply at hreply
  simp only [hworkdir, gamePath, hname, Bool.not_true, Bool.false_eq_true, if_false, if_true,
    inside_single hroot "game" (single_gameFile hname)] at hreply
  split at hreply
  · cases hreply
  · cases hreply
    cases hok
  · obtain ⟨s, hs, rfl⟩ := Except.map_eq_ok.mp hreply
    exact ⟨s, Except.mapError_eq_ok.mp hs, rfl⟩

/-! ### The service as a whole -/

/-- Whether a reply refuses an order: with status 400, or, where one of the paths holds a NUL
character, because that cannot be resolved. -/
def Refuses (o : Order) (reply : Except Trouble Reply) : Prop :=
  (∃ r : Refusal, r.status = 400 ∧ reply = .ok (.refusal r)) ∨
    (reply = .error (.lookup .nulInPath) ∧ ∃ s ∈ o.sent, '\x00' ∈ s.2.toList)

theorem Halt.Stops.refuses {o : Order} {halt : Halt} (h : halt.Stops o.sent) :
    Refuses o halt.reply := by
  cases halt with
  | refused r => exact Or.inl ⟨r, h, rfl⟩
  | unresolved e =>
    obtain ⟨rfl, hnul⟩ := h
    exact Or.inr ⟨rfl, hnul⟩

/-- Every path that is handed to the compiler is the directory or lies below it; an order with a
path that means a place outside is refused, and nothing is done. Games come from right in the
directory. -/
theorem compileReply_contained (c : Compiler) (o : Order) (w : Workspace) (fetch : Fetch.State)
    (root : Path) (hcwd : w.cwd.Normal) (hnul : '\x00' ∉ w.cwd.toText.toList)
    (hworkdir : workdir w c.settings = .ok root) :
    (∀ r output, o.place w root = .ok (r, output) →
      (∀ s ∈ o.sent, Below root (meant w root s.2)) ∧ Order.Handed w root o r output ∧
        (compileReply c o ⟨w, fetch⟩).2 = (c.compile r ⟨w, fetch⟩).2) ∧
    ((∃ s ∈ o.sent, Outside w root s.2) →
      Refuses o (compileReply c o ⟨w, fetch⟩).1 ∧ (compileReply c o ⟨w, fetch⟩).2 = ⟨w, fetch⟩) ∧
    ∀ name, isGameName name = true →
      gamePath w root name = .ok ⟨"/", root.names ++ [gameFile name]⟩ ∧
        ∀ reply, gameReply w c.settings name = .ok reply → reply.status = 200 →
          ∃ s, w.readText ⟨"/", root.names ++ [gameFile name]⟩ = .ok s ∧
            reply = ⟨200, .page s⟩ := by
  have hroot := usable_workdir hcwd hnul hworkdir
  have hplace := Order.checks_place hroot o
  refine ⟨fun r output h => ?_, fun hout => ?_, fun name hname => ?_⟩
  · obtain ⟨hin, hhanded⟩ := hplace.gives _ h
    refine ⟨fun s hs => below_meant hcwd hroot (hin s hs), hhanded, ?_⟩
    unfold compileReply
    simp only [hworkdir, h]
    split
    · next e world heq => rw [heq]
    · next result world heq => rw [heq]
  · obtain ⟨s, hs, hout⟩ := hout
    cases h : o.place w root with
    | ok x => exact absurd hout ((hplace.gives x h).1 s hs)
    | error halt =>
      unfold compileReply
      simp only [hworkdir, h]
      exact ⟨(hplace.stops halt h).refuses, trivial⟩
  · refine ⟨?_, fun reply hreply hok => gameReply_child hworkdir hroot hname hreply hok⟩
    rw [gamePath, if_pos hname]
    exact inside_single hroot "game" (single_gameFile hname)

/-- An order with a folder of pictures. -/
def withPictures (output pictures : String) : Order :=
  { orderOf "/site/menu.js" with output := output, assets := some pictures }

instance (w : Workspace) (root : Path) (value : String) : Decidable (Outside w root value) :=
  inferInstanceAs (Decidable ¬root.names <+: (meant w root value).names)

/-- Ways about are taken out of paths, and a directory beside that of the service is not in it. -/
theorem compileReply_contained_shop :
    house.cwd.Normal ∧ '\x00' ∉ house.cwd.toText.toList ∧
      workdir house shop.settings = .ok ⟨"/", ["site"]⟩ ∧
      (∃ r output, (withPictures "a/..//./out.html" "/site").place house ⟨"/", ["site"]⟩ =
          .ok (r, output) ∧
        r.output = "/site/out.html" ∧ r.assets = some "/site" ∧
        Below ⟨"/", ["site"]⟩ (meant house ⟨"/", ["site"]⟩ "a/..//./out.html")) ∧
      Outside house ⟨"/", ["site"]⟩ "../site-old" ∧
      Refuses (withPictures "out.html" "../site-old")
        (compileReply shop (withPictures "out.html" "../site-old") ⟨house, cold⟩).1 ∧
      isGameName "out" = true ∧
      gamePath house ⟨"/", ["site"]⟩ "out" = .ok ⟨"/", ["site", "out.html"]⟩ := by
  have hcwd : house.cwd.Normal := ⟨Or.inr (Or.inl rfl), fun n hn => absurd hn List.not_mem_nil⟩
  have hnul : '\x00' ∉ house.cwd.toText.toList := by decide +kernel
  have hshop (o : Order) := compileReply_contained shop o house cold _ hcwd hnul workdir_shop
  have hplaced : ((withPictures "a/..//./out.html" "/site").place house
      ⟨"/", ["site"]⟩).toOption.isSome = true := by decide +kernel
  have hsibling : Outside house ⟨"/", ["site"]⟩ "../site-old" := by decide +kernel
  have hgame : isGameName "out" = true := by decide
  have hfile : gameFile "out" = "out.html" := by decide
  have hout := (hshop (withPictures "out.html" "../site-old")).2.1
    ⟨("assets_dir", "../site-old"), List.mem_cons_of_mem _ List.mem_cons_self, hsibling⟩
  have hgames := ((hshop (withPictures "out.html" "../site-old")).2.2 "out" hgame).1
  rw [hfile] at hgames
  refine ⟨hcwd, hnul, workdir_shop, ?_, hsibling, hout.1, hgame, hgames⟩
  cases h : (withPictures "a/..//./out.html" "/site").place house ⟨"/", ["site"]⟩ with
  | error halt =>
    rw [h] at hplaced
    cases hplaced
  | ok x =>
    obtain ⟨r, output⟩ := x
    obtain ⟨hin, hhanded, -⟩ := (hshop _).1 r output h
    have hbelow := hin ("output", "a/..//./out.html") List.mem_cons_self
    refine ⟨r, output, rfl, hhanded.output.trans ?_, hhanded.assets.trans ?_, hbelow⟩
    · decide +kernel
    · decide +kernel

/-- An order that names a place outside is not refused where a path before it holds a NUL character.
-/
theorem not_refused_unresolved :
    ¬∀ (c : Compiler) (o : Order) (w : Workspace) (fetch : Fetch.State) (root : Path),
      workdir w c.settings = .ok root → (∃ s ∈ o.sent, Outside w root s.2) →
        ∃ r : Refusal, r.status = 400 ∧ (compileReply c o ⟨w, fetch⟩).1 = .ok (.refusal r) := by
  intro h
  have hout : Outside house ⟨"/", ["site"]⟩ ".." := by decide +kernel
  obtain ⟨r, -, hr⟩ := h shop (withPictures "a\x00.html" "..") house cold _ workdir_shop
    ⟨("assets_dir", ".."), List.mem_cons_of_mem _ List.mem_cons_self, hout⟩
  have htarget : (withPictures "a\x00.html" "..").target house ⟨"/", ["site"]⟩ =
      .error (.unresolved .nulInPath) := by decide +kernel
  have hplace : (withPictures "a\x00.html" "..").place house ⟨"/", ["site"]⟩ =
      .error (.unresolved .nulInPath) := by
    unfold Order.place
    rw [htarget]
    rfl
  unfold compileReply at hr
  simp only [workdir_shop, hplace] at hr
  cases hr

end Service

end Storybind
