import Mathlib.Tactic
import Storybind.Proofs.Volume

/-!
Two volumes that agree in a directory. Paths into it lead to the same entries, and operations on such
paths leave the volumes in agreement and are refused alike.
-/

namespace Storybind

namespace Volume

variable {root names m : List String} {v v' : Volume} {cwd p : Path}

/-- Whether names are those of a directory, of what is in it, or of a directory on the way to it. -/
def Near (root names : List String) : Prop := root <+: names ∨ names <+: root

theorem Near.of_prefix (h : Near root names) (hm : m <+: names) : Near root m := by
  rcases h with h | h
  · exact List.prefix_or_prefix_of_prefix h hm
  · exact Or.inr (hm.trans h)

/-- Whether two volumes agree in a directory and on the way to it. -/
def AgreeIn (root : List String) (v v' : Volume) : Prop :=
  ∀ names, Near root names → v'.find? names = v.find? names

theorem AgreeIn.put (h : AgreeIn root v v') (names : List String) (e : Entry) :
    AgreeIn root (v.put names e) (v'.put names e) := by
  intro m hm
  by_cases hnil : m = []
  · rw [hnil, find?_nil, find?_nil]
  · have hfound := h m hm
    rw [find?_of_ne_nil hnil, find?_of_ne_nil hnil] at hfound ⊢
    rw [lookup_put, lookup_put, hfound]

theorem AgreeIn.erase (h : AgreeIn root v v') (hn : names ≠ []) :
    AgreeIn root (v.erase names) (v'.erase names) := by
  intro m hm
  rw [find?_erase hn, find?_erase hn, h m hm]

/-! ### Paths into the directory -/

/-- A path without detours that leads into a directory or to a place on the way to it. -/
structure Into (root : List String) (p : Path) : Prop where
  absolute : p.isAbsolute = true
  plain : ".." ∉ p.names
  near : Near root p.names

theorem Into.parent (h : Into root p) : Into root p.parent where
  absolute := h.absolute
  plain := fun hmem => h.plain (List.mem_of_mem_dropLast hmem)
  near := h.near.of_prefix (List.dropLast_prefix p.names)

theorem follow_congr {here : List String} (hplain : ".." ∉ names)
    (h : ∀ m, m <+: here ++ names → v'.find? m = v.find? m) :
    v'.follow here names = v.follow here names := by
  induction names generalizing here with
  | nil => rfl
  | cons n rest ih =>
    have hhere := h here (List.prefix_append here _)
    have hrest : ".." ∉ rest := fun hmem => hplain (List.mem_cons_of_mem n hmem)
    have hn : n ≠ ".." := fun heq => hplain (heq ▸ List.mem_cons_self)
    have hnext : v'.follow (here ++ [n]) rest = v.follow (here ++ [n]) rest := by
      refine ih hrest fun m hm => h m ?_
      rwa [List.append_assoc] at hm
    rw [follow, follow, hhere, if_neg hn, if_neg hn, hnext]

theorem AgreeIn.locate (h : AgreeIn root v v') (hp : Into root p) (cwd : Path) :
    v'.locate cwd p = v.locate cwd p := by
  have hfollow : v'.follow [] p.names = v.follow [] p.names :=
    follow_congr hp.plain fun m hm => h m (hp.near.of_prefix hm)
  unfold Volume.locate
  rw [if_pos hp.absolute, hfollow]

theorem Into.locate_ok (hp : Into root p) (h : v.locate cwd p = .ok names) : names = p.names := by
  unfold Volume.locate at h
  split at h
  · cases h
  · split at h
    · cases h
    · rw [if_pos hp.absolute] at h
      rw [follow_ok h, Path.foldl_descend_of_plain hp.plain, List.nil_append]

theorem AgreeIn.entry (h : AgreeIn root v v') (hp : Into root p) (cwd : Path) :
    v'.entry cwd p = v.entry cwd p := by
  unfold Volume.entry
  rw [h.locate hp cwd]
  cases hl : v.locate cwd p with
  | error f => rfl
  | ok names =>
    have hnear : Near root names := hp.locate_ok hl ▸ hp.near
    simp only [bind, Except.bind, h names hnear]

/-! ### Operations -/

/-- Two runs of an operation that end in agreement or with one refusal. -/
inductive RunAlike (root : List String) : Except FileError Volume → Except FileError Volume → Prop where
  | done {v v' : Volume} (h : AgreeIn root v v') : RunAlike root (.ok v) (.ok v')
  | refused (e : FileError) : RunAlike root (.error e) (.error e)

theorem AgreeIn.holdsDirectory (h : AgreeIn root v v') (hp : Into root p) (cwd : Path) :
    v'.holdsDirectory cwd p = v.holdsDirectory cwd p := by
  unfold Volume.holdsDirectory isDirectory leadsTo
  rw [h.entry hp cwd]

theorem AgreeIn.makeOne (h : AgreeIn root v v') (hp : Into root p) (cwd : Path) :
    RunAlike root (v.makeOne cwd p) (v'.makeOne cwd p) := by
  unfold Volume.makeOne
  rw [h.locate hp cwd]
  cases hl : v.locate cwd p with
  | error f => exact .refused _
  | ok names =>
    have hnear : Near root names := hp.locate_ok hl ▸ hp.near
    simp only [h names hnear, h names.dropLast (hnear.of_prefix (List.dropLast_prefix names))]
    split
    · exact .refused _
    · split
      · exact .refused _
      · exact .refused _
      · exact .done (h.put names .directory)

theorem AgreeIn.makeMissing (h : AgreeIn root v v') (hp : Into root p) (cwd : Path) :
    RunAlike root (v.makeMissing cwd p) (v'.makeMissing cwd p) := by
  have hone := h.makeOne hp cwd
  unfold Volume.makeMissing
  rw [h.holdsDirectory hp cwd]
  generalize v.makeOne cwd p = run, v'.makeOne cwd p = run' at hone
  cases hone with
  | done hmade => exact .done hmade
  | refused e =>
    simp only
    split
    · exact .done h
    · exact .refused e

theorem AgreeIn.create (h : AgreeIn root v v') (hp : Into root p) (cwd : Path) :
    RunAlike root (v.create cwd p) (v'.create cwd p) := by
  unfold Volume.create
  rw [h.locate hp cwd]
  cases hl : v.locate cwd p with
  | error f => exact .refused _
  | ok names =>
    have hnear : Near root names := hp.locate_ok hl ▸ hp.near
    simp only [h names hnear, h names.dropLast (hnear.of_prefix (List.dropLast_prefix names))]
    split
    · exact .refused _
    · exact .done (h.put names (.file []))
    · exact .refused _
    · exact .refused _

theorem AgreeIn.replace {source target : Path} (h : AgreeIn root v v') (hsource : Into root source)
    (hn : source.names ≠ []) (htarget : Into root target) (cwd : Path) :
    RunAlike root (v.replace cwd source target) (v'.replace cwd source target) := by
  unfold Volume.replace
  rw [h.entry hsource cwd, h.locate htarget cwd]
  cases hentry : v.entry cwd source with
  | error f => exact .refused _
  | ok found =>
    obtain ⟨origin, e⟩ := found
    have horigin : origin ≠ [] := hsource.locate_ok (entry_ok hentry).1 ▸ hn
    cases hl : v.locate cwd target with
    | error f => exact .refused _
    | ok destination =>
      have hnear : Near root destination := htarget.locate_ok hl ▸ htarget.near
      simp only [h destination hnear]
      split
      · exact .refused _
      · split
        · exact .refused _
        · exact .done ((h.erase horigin).put destination e)

end Volume

/-! ### Courses -/

namespace Course

open Volume

variable {root : List String} {c c' : Course} {next next' : Volume → Course}

/-- Two courses in agreement all the way, and refused alike. -/
structure Alike (root : List String) (c c' : Course) : Prop where
  start : AgreeIn root c.start c'.start
  later : List.Forall₂ (AgreeIn root) c.later c'.later
  refusal : c'.refusal = c.refusal

theorem Alike.final (h : Alike root c c') : AgreeIn root c.final c'.final := by
  obtain ⟨start, later, refusal⟩ := c
  obtain ⟨start', later', refusal'⟩ := c'
  obtain ⟨hstart, hlater, -⟩ := h
  simp only at hstart hlater
  unfold Course.final
  -- the volume before the first one left is the one to end with where none is left
  induction hlater generalizing start start' with
  | nil => exact hstart
  | cons hhead htail ih =>
    rw [List.getLast?_cons, List.getLast?_cons]
    exact ih _ _ hhead

theorem alike_single {v v' : Volume} {r r' : Except FileError Volume} (h : AgreeIn root v v')
    (hr : RunAlike root r r') : Alike root (single v r) (single v' r') := by
  cases hr with
  | done hdone => exact ⟨h, .cons hdone .nil, rfl⟩
  | refused e => exact ⟨h, .nil, rfl⟩

theorem Alike.andThen (h : Alike root c c')
    (hnext : AgreeIn root c.final c'.final → Alike root (next c.final) (next' c'.final)) :
    Alike root (c.andThen next) (c'.andThen next') := by
  have hrefusal := h.refusal
  unfold Course.andThen
  cases hr : c.refusal with
  | some e =>
    rw [hr] at hrefusal
    rw [hrefusal]
    exact h
  | none =>
    rw [hr] at hrefusal
    rw [hrefusal]
    have hmore := hnext h.final
    exact ⟨h.start, List.rel_append h.later hmore.later, hmore.refusal⟩

end Course

namespace Volume

variable {root : List String} {v v' : Volume} {p : Path}

theorem AgreeIn.makeDeep (h : AgreeIn root v v') (cwd : Path) (depth : Nat) (hp : Into root p) :
    Course.Alike root (v.makeDeep cwd depth p) (v'.makeDeep cwd depth p) := by
  have hstop (e : Option FileError) : Course.Alike root ⟨v, [], e⟩ ⟨v', [], e⟩ := ⟨h, .nil, rfl⟩
  induction depth using Nat.strongRecOn generalizing p with
  | ind depth ih =>
    have hone := h.makeOne hp cwd
    unfold Volume.makeDeep
    rw [h.holdsDirectory hp cwd]
    generalize v.makeOne cwd p = run, v'.makeOne cwd p = run' at hone
    cases hone with
    | done hmade => exact ⟨h, .cons hmade .nil, rfl⟩
    | refused e =>
      simp only
      split
      · cases depth with
        | zero => exact hstop _
        | succ depth =>
          have habove := ih depth (Nat.lt_succ_self depth) hp.parent
          exact habove.andThen fun hfinal =>
            Course.alike_single hfinal (hfinal.makeMissing hp cwd)
      · split
        · exact hstop _
        · exact hstop _

end Volume

/-! ### Reading -/

namespace Workspace

variable {w : Workspace} {v : Volume} {p : Path}

/-- A workspace with another volume. -/
def on (w : Workspace) (v : Volume) : Workspace := { w with volume := v }

@[simp] theorem cwd_on (w : Workspace) (v : Volume) : (w.on v).cwd = w.cwd := rfl

@[simp] theorem resolve_on (w : Workspace) (v : Volume) (p : Path) :
    (w.on v).resolve p = w.resolve p := rfl

@[simp] theorem expandHome?_on (w : Workspace) (v : Volume) (p : Path) :
    (w.on v).expandHome? p = w.expandHome? p := rfl

/-- Whether a path leads to the same on another volume. -/
def Same (w : Workspace) (v : Volume) (p : Path) : Prop := v.entry w.cwd p = w.volume.entry w.cwd p

theorem Same.leadsTo (h : w.Same v p) (kind : Entry → Bool) :
    v.leadsTo w.cwd p kind = w.volume.leadsTo w.cwd p kind := by
  unfold Volume.leadsTo
  rw [h]

/-- A directory has the same names on both volumes. -/
theorem Same.locate (h : w.Same v p) (hthere : w.isDirectory p = .ok true) :
    ∃ names, w.volume.locate w.cwd p = .ok names ∧ v.locate w.cwd p = .ok names := by
  unfold Workspace.isDirectory Volume.isDirectory Volume.leadsTo at hthere
  split at hthere
  · next names e hentry =>
    exact ⟨names, (Volume.entry_ok hentry).1, (Volume.entry_ok (h.trans hentry)).1⟩
  · cases hthere
  · cases hthere

theorem Same.isFile (h : w.Same v p) : (w.on v).isFile p = w.isFile p := h.leadsTo _

theorem Same.isDirectory (h : w.Same v p) : (w.on v).isDirectory p = w.isDirectory p := h.leadsTo _

theorem Same.existsAt (h : w.Same v p) : (w.on v).existsAt p = w.existsAt p := h.leadsTo _

theorem Same.read (h : w.Same v p) : (w.on v).read p = w.read p := by
  have hread : v.read w.cwd p = w.volume.read w.cwd p := by
    unfold Volume.read
    rw [h]
  exact hread

theorem Same.readText (h : w.Same v p) : (w.on v).readText p = w.readText p := by
  unfold Workspace.readText
  rw [h.read]

end Workspace
end Storybind
