import Mathlib.Tactic
import Storybind.Proofs.Compile.Footprint
import Storybind.Proofs.Component.Loading
import Storybind.Proofs.Path
import Storybind.Proofs.Volume

/-!
How often a file of a component goes into a page. Files are told apart by the paths that ask for them, so a
file goes in as often as different spellings of its path lead to it.
-/

namespace Storybind

open Distinct (nodup_eraseDups nodup_filterMap_iff)

/-! ### Spellings of a path -/

namespace Path

/-- Whether a text is that of a relative path without `..` and not below a home directory, as such a path
is given back. -/
structure IsPlain (s : String) (p : Path) : Prop where
  normal : p.Normal
  relative : p.anchor = ""
  named : p.names ≠ []
  homeless : ∀ n, p.names.head? = some n → n.startsWith "~" = false
  straight : ".." ∉ p.names
  text : s = p.toText

variable {s t : String} {p q : Path}

theorem append_of_relative (p q : Path) (h : q.anchor = "") :
    p ++ q = ⟨p.anchor, p.names ++ q.names⟩ :=
  if_neg (by simp [isAbsolute, h])

theorem append_append_of_relative (cwd base : Path) (h : p.anchor = "") :
    (cwd ++ (base ++ p)).names = (cwd ++ base).names ++ p.names := by
  rw [append_of_relative base p h]
  by_cases hbase : base.isAbsolute = true
  · have hleft : cwd ++ (⟨base.anchor, base.names ++ p.names⟩ : Path) =
        ⟨base.anchor, base.names ++ p.names⟩ := if_pos hbase
    have hright : cwd ++ base = base := if_pos hbase
    rw [hleft, hright]
  · have hanchor : base.anchor = "" := by simpa [isAbsolute] using hbase
    rw [append_of_relative cwd ⟨base.anchor, base.names ++ p.names⟩ hanchor,
      append_of_relative cwd base hanchor]
    exact (List.append_assoc _ _ _).symm

theorem IsPlain.eq_join (h : IsPlain s p) : s = Text.join "/" p.names := by
  rw [h.text, toText, h.relative]
  simp [h.named]

theorem IsPlain.ofString_eq (h : IsPlain s p) : ofString s = p := by
  rw [h.text, ofString_toText h.normal]

theorem IsPlain.expandHome? (h : IsPlain s p) (w : Workspace) : w.expandHome? p = some p := by
  have hrelative : ¬p.isAbsolute = true := by simp [isAbsolute, h.relative]
  rw [Workspace.expandHome?, if_neg hrelative]
  cases hnames : p.names with
  | nil => rfl
  | cons n rest =>
    have hhome := h.homeless n (by rw [hnames]; rfl)
    have htilde : n ≠ "~" := by
      rintro rfl
      exact absurd hhome (by decide +kernel)
    simp [htilde, hhome]

/-- What a plain path denotes below a directory ends in its own names. -/
theorem IsPlain.resolve (h : IsPlain s p) (cwd base : Path) :
    Path.resolve cwd (base ++ p) = ⟨"/", (Path.resolve cwd base).names ++ p.names⟩ := by
  rw [Path.resolve, Path.resolve, append_append_of_relative cwd base h.relative, normalNames_eq,
    normalNames_eq, List.foldl_append, foldl_descend_of_plain h.straight]

/-- Different plain paths denote different paths below a directory. -/
theorem IsPlain.unique (hs : IsPlain s p) (ht : IsPlain t q) {cwd base : Path}
    (h : (Path.resolve cwd (base ++ p)).toText = (Path.resolve cwd (base ++ q)).toText) : s = t := by
  have htext (names : List String) : toText ⟨"/", names⟩ = "/" ++ Text.join "/" names := by simp [toText]
  -- both texts begin with that of the directory
  rw [hs.resolve, ht.resolve, htext, htext, String.append_right_inj] at h
  rw [hs.eq_join, ht.eq_join]
  cases hbase : (Path.resolve cwd base).names with
  | nil => simpa [hbase] using h
  | cons n rest =>
    have hne : (Path.resolve cwd base).names ≠ [] := by
      rw [hbase]
      exact List.cons_ne_nil n rest
    rw [Text.join, Text.join, String.intercalate_append_of_ne_nil hne hs.named,
      String.intercalate_append_of_ne_nil hne ht.named, String.append_right_inj] at h
    exact h

end Path

namespace Lookup

variable {w : Workspace} {places : Lookup} {s t : String} {candidate file : Path} {name : String}

/-- Whether a text is looked up at all. -/
def IsGiven (s : String) : Prop := (s.isEmpty || isWebAddress s) = false

/-- What is found below places is told by the path alone. -/
theorem search_of_spelling {tried : List String}
    (h : search w s candidate tried places = .ok (.file file name)) :
    search w t candidate tried places = .ok (.file file name) := by
  induction places generalizing tried with
  | nil => cases h
  | cons place rest ih =>
    unfold search at h ⊢
    cases hbase : baseDirectory? w place.base with
    | none =>
      simp only [hbase] at h ⊢
      exact ih h
    | some base =>
      simp only [hbase] at h ⊢
      cases hfull : fullPath w (base ++ candidate) with
      | error e => simp [hfull] at h
      | ok full =>
        simp only [hfull] at h ⊢
        cases hfile : w.isFile full with
        | error e => simp [hfile] at h
        | ok found =>
          cases found with
          | true => simpa only [hfile] using h
          | false =>
            simp only [hfile] at h ⊢
            exact ih h

/-- What is found is told by how the text reads as a path. -/
theorem find_of_spelling (hs : IsGiven s) (ht : IsGiven t)
    (hread : w.expandHome? (Path.ofString s) = w.expandHome? (Path.ofString t))
    (h : find w s places = .ok (.file file name)) : find w t places = .ok (.file file name) := by
  have hs : ¬(s.isEmpty || isWebAddress s) = true := Bool.eq_false_iff.mp hs
  have ht : ¬(t.isEmpty || isWebAddress t) = true := Bool.eq_false_iff.mp ht
  rw [find, if_neg hs] at h
  rw [find, if_neg ht, ← hread]
  cases hpath : w.expandHome? (Path.ofString s) with
  | none => simp [hpath] at h
  | some candidate =>
    simp only [hpath] at h ⊢
    split at h
    · next habsolute =>
      rw [if_pos habsolute]
      cases hfile : w.isFile candidate with
      | error e => simp [hfile] at h
      | ok found =>
        cases found with
        | true => simpa only [hfile] using h
        | false => simp [hfile] at h
    · next hrelative =>
      rw [if_neg hrelative]
      exact search_of_spelling h

/-- A plain path that stands below the first directory is found there. -/
theorem find_beside {base p : Path} {rest : Lookup} {label : String} (hs : p.IsPlain s)
    (hfile : w.isFile (w.resolve (base ++ p)) = .ok true)
    (h : find w s (⟨label, .directory base⟩ :: rest) = .ok (.file file name)) :
    file = w.resolve (base ++ p) := by
  have hpath : w.expandHome? (Path.ofString s) = some p := by rw [hs.ofString_eq, hs.expandHome?]
  have hrelative : ¬p.isAbsolute = true := by simp [Path.isAbsolute, hs.relative]
  unfold find at h
  split at h
  · cases h
  · simp only [hpath, if_neg hrelative, search, baseDirectory?] at h
    cases hfull : fullPath w (base ++ p) with
    | error e => simp [hfull] at h
    | ok full =>
      have hresolve : full = w.resolve (base ++ p) := by
        unfold fullPath at hfull
        split at hfull
        · cases hfull
        · exact (Except.ok.inj hfull).symm
      simp only [hfull, hresolve, hfile] at h
      cases h
      rfl

end Lookup

namespace Parts

variable {w : Workspace} {places : Lookup} {mounts : List Mount} {parts : Parts} {kind : PartKind}
  {s t : String}

/-- The path of the file that a path leads to, if it can be opened. -/
def file? (w : Workspace) (places : Lookup) (s : String) : Option String :=
  (opened? w places s).map (·.1.toText)

theorem exists_of_file? {file : String} (h : file? w places s = some file) :
    ∃ path name, Lookup.find w s places = .ok (.file path name) ∧ path.toText = file := by
  obtain ⟨⟨path, text⟩, hopened, hfile⟩ := Option.map_eq_some_iff.mp h
  obtain ⟨⟨name, hfind⟩, -⟩ := opened?_eq_some.mp hopened
  exact ⟨path, name, hfind, hfile⟩

/-- Spellings that read as one path lead to one file. -/
theorem file?_of_spelling (hs : Lookup.IsGiven s) (ht : Lookup.IsGiven t)
    (hread : w.expandHome? (Path.ofString s) = w.expandHome? (Path.ofString t)) :
    file? w places s = file? w places t := by
  have hopened : opened? w places s = opened? w places t := by
    refine Option.ext fun ⟨file, text⟩ => ?_
    rw [opened?_eq_some, opened?_eq_some]
    refine and_congr_left fun _ => exists_congr fun name => ?_
    exact ⟨Lookup.find_of_spelling hs ht hread, Lookup.find_of_spelling ht hs hread.symm⟩
  rw [file?, file?, hopened]

/-- The loaded files of a kind are those that the distinct paths lead to, in order. -/
theorem LoadsEach.map_resolved (h : LoadsEach w places mounts parts) (kind : PartKind) :
    (parts.ofKind kind).map (·.resolved) = (kind.paths mounts).eraseDups.filterMap (file? w places) := by
  have hresolved : ∀ p ∈ parts.ofKind kind, file? w places p.requested = some p.resolved := by
    intro p hp
    obtain ⟨-, file, text, hopened, hfile, -⟩ := h.loaded kind p hp
    rw [file?, hopened, hfile]
    rfl
  calc (parts.ofKind kind).map (·.resolved)
      = ((parts.ofKind kind).map (·.requested)).filterMap (file? w places) := by
        rw [List.filterMap_map, ← List.filterMap_eq_map]
        exact (List.filterMap_congr hresolved).symm
    _ = (kind.paths mounts).eraseDups.filterMap (file? w places) := by
        rw [h.requested, List.filterMap_filter]
        refine List.filterMap_congr fun path _ => ?_
        cases hopened : opened? w places path with
        | none => simp [file?, hopened]
        | some opened => simp

/-- A script goes in once for each spelling of its path. So no file goes in twice exactly if different
spellings lead to different files; spellings that read as one path never do, and plain paths of scripts
that stand below the first directory always do. -/
theorem inlines_each_spelling (h : load w places mounts = .ok parts) :
    parts.scripts.map (·.resolved) = (mounts.map (·.script)).eraseDups.filterMap (file? w places) ∧
    (∀ file, (parts.scripts.map (·.resolved)).count file =
      (mounts.map (·.script)).eraseDups.countP fun s => file? w places s = some file) ∧
    ((parts.scripts.map (·.resolved)).Nodup ↔ ∀ s ∈ mounts.map (·.script), ∀ t ∈ mounts.map (·.script),
      ∀ file, file? w places s = some file → file? w places t = some file → s = t) ∧
    (∀ s t, Lookup.IsGiven s → Lookup.IsGiven t →
      w.expandHome? (Path.ofString s) = w.expandHome? (Path.ofString t) →
      file? w places s = file? w places t) ∧
    ∀ label base rest, places = ⟨label, .directory base⟩ :: rest →
      (∀ s ∈ mounts.map (·.script), file? w places s = none ∨
        ∃ p, Path.IsPlain s p ∧ w.isFile (w.resolve (base ++ p)) = .ok true) →
      (parts.scripts.map (·.resolved)).Nodup := by
  have hresolved : parts.scripts.map (·.resolved) =
      (mounts.map (·.script)).eraseDups.filterMap (file? w places) := by
    rw [← PartKind.paths_script]
    exact (loadsEach_of_load h).map_resolved .script
  have hnodup : (parts.scripts.map (·.resolved)).Nodup ↔ ∀ s ∈ mounts.map (·.script),
      ∀ t ∈ mounts.map (·.script), ∀ file, file? w places s = some file → file? w places t = some file →
        s = t := by
    rw [hresolved, nodup_filterMap_iff (nodup_eraseDups _)]
    simp only [List.mem_eraseDups]
  refine ⟨hresolved, fun file => ?_, hnodup, fun s t => file?_of_spelling, ?_⟩
  · rw [hresolved, List.count, List.countP_filterMap]
    refine List.countP_congr fun s _ => ?_
    cases file? w places s <;> simp
  · intro label base rest hplaces hplain
    refine hnodup.mpr fun s hs t ht file hsfile htfile => ?_
    -- the first directory has each file, so none of the later ones is asked
    have hfile {s : String} (hs : s ∈ mounts.map (·.script)) (hsfile : file? w places s = some file) :
        ∃ p, Path.IsPlain s p ∧ (w.resolve (base ++ p)).toText = file := by
      rcases hplain s hs with hnone | ⟨p, hp, hbeside⟩
      · rw [hnone] at hsfile
        cases hsfile
      · obtain ⟨path, name, hfind, htext⟩ := exists_of_file? hsfile
        rw [hplaces] at hfind
        rw [Lookup.find_beside hp hbeside hfind] at htext
        exact ⟨p, hp, htext⟩
    obtain ⟨p, hp, hsame⟩ := hfile hs hsfile
    obtain ⟨q, hq, hsame'⟩ := hfile ht htfile
    exact hp.unique hq (hsame.trans hsame'.symm)

theorem isPlain_script : Path.IsPlain "c/k.js" ⟨"", ["c", "k.js"]⟩ where
  normal := ⟨.inl rfl, by decide +kernel⟩
  relative := rfl
  named := List.cons_ne_nil _ _
  homeless := by
    intro n hn
    obtain rfl := Option.some.inj hn
    decide +kernel
  straight := by decide
  text := by decide

theorem inlines_each_spelling_company :
    ∃ parts, load stage wings company = .ok parts ∧ (parts.scripts.map (·.resolved)).Nodup ∧
      (parts.scripts.map (·.resolved)).count "/c/k.js" = 1 := by
  have hscripts : ∀ s ∈ company.map (·.script), s = "c/k.js" ∨ file? stage wings s = none := by
    decide +kernel
  have hopens : (company.map (·.script)).eraseDups.countP
      (fun s => file? stage wings s = some "/c/k.js") = 1 := by decide +kernel
  have hloads : (load stage wings company).isOk = true := by decide +kernel
  cases hload : load stage wings company with
  | error e =>
    rw [hload] at hloads
    cases hloads
  | ok parts =>
    obtain ⟨-, hcount, -, -, hplain⟩ := inlines_each_spelling hload
    refine ⟨parts, rfl, hplain "script_dir" ⟨"/", []⟩ [] rfl fun s hs => ?_, ?_⟩
    · rcases hscripts s hs with rfl | hnone
      · exact .inr ⟨_, isPlain_script, by decide +kernel⟩
      · exact .inl hnone
    · rw [hcount, hopens]

/-- Two mounts of one script, which they spell differently. -/
def doubles : List Mount :=
  [⟨"1", "K", "c/k.js", none, "a", [], "intro", 0⟩, ⟨"2", "K", "./c/k.js", none, "b", [], "intro", 0⟩]

/-- A script can go into a page twice. -/
theorem not_nodup_doubles :
    ¬∀ (w : Workspace) (places : Lookup) (mounts : List Mount) (parts : Parts),
      load w places mounts = .ok parts → (parts.scripts.map (·.resolved)).Nodup := by
  intro h
  have hresolved : (load stage wings doubles).toOption.map (fun parts => parts.scripts.map (·.resolved)) =
      some ["/c/k.js", "/c/k.js"] := by decide +kernel
  cases hload : load stage wings doubles with
  | error e =>
    rw [hload] at hresolved
    cases hresolved
  | ok parts =>
    rw [hload] at hresolved
    have htwice : parts.scripts.map (·.resolved) = ["/c/k.js", "/c/k.js"] := Option.some.inj hresolved
    have hnodup := h stage wings doubles parts hload
    rw [htwice] at hnodup
    exact absurd hnodup (by decide)

end Parts
end Storybind
