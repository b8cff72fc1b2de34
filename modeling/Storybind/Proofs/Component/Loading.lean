import Mathlib.Tactic
import Storybind.Compile.Compiler
import Storybind.Proofs.Compile.Supplies
import Storybind.Proofs.Distinct

/-!
Loading the files of components. Every path that a mount asks for is tried once for its kind of file, in
the order of first appearance, and gives a part or an entry among the missing ones with its warning.
-/

namespace Storybind

open Distinct (eraseDups_filter eraseDups_map keepFirst map_keepFirst mem_keepFirst nodup_eraseDups)
open Storybind.Except (Fails bind_eq_ok mapError_eq_ok)

namespace PartKind

/-- The path of a kind of file that a mount asks for. -/
def pathOf? : PartKind → Mount → Option String
  | script, m => some m.script
  | stylesheet, m => m.stylesheet.filter fun s => !s.isEmpty

/-- The paths of a kind of file that mounts ask for. -/
def paths (kind : PartKind) (mounts : List Mount) : List String := mounts.filterMap kind.pathOf?

theorem paths_script (mounts : List Mount) : script.paths mounts = mounts.map (·.script) :=
  congrFun (List.filterMap_eq_map (f := Mount.script)) mounts

theorem paths_cons (kind : PartKind) (m : Mount) (mounts : List Mount) :
    kind.paths (m :: mounts) = (kind.pathOf? m).toList ++ kind.paths mounts := by
  rw [paths, List.filterMap_cons]
  cases kind.pathOf? m <;> rfl

/-- The component that asks first for a path. -/
def asker (kind : PartKind) (mounts : List Mount) (path : String) : Option String :=
  (mounts.find? fun m => kind.pathOf? m = some path).map (·.component)

theorem asker_cons (kind : PartKind) (m : Mount) (mounts : List Mount) (path : String) :
    kind.asker (m :: mounts) path =
      (if kind.pathOf? m = some path then some m.component else none).or (kind.asker mounts path) := by
  rw [asker, List.find?_cons]
  by_cases hpath : kind.pathOf? m = some path
  · simp [hpath]
  · simp [hpath, asker]

/-- What goes into a page of the text of a file. -/
def content : PartKind → String → String
  | script, text => Exports.strip text
  | stylesheet, text => text

end PartKind

namespace Parts

variable {w : Workspace} {places : Lookup} {mounts : List Mount} {parts parts' : Parts}
  {kind : PartKind} {path : String} {r : PartKind × String × String} {p : Part}

/-! ### What is asked for -/

/-- What a mount asks for, with its component. -/
def asksOf (m : Mount) : List (PartKind × String × String) :=
  [PartKind.script, .stylesheet].filterMap fun kind =>
    (kind.pathOf? m).map fun path => (kind, path, m.component)

/-- All that mounts ask for, in order. -/
def asks (mounts : List Mount) : List (PartKind × String × String) := mounts.flatMap asksOf

/-- The kind and the path of a request. -/
def key (r : PartKind × String × String) : PartKind × String := (r.1, r.2.1)

theorem asks_cons (m : Mount) (mounts : List Mount) : asks (m :: mounts) = asksOf m ++ asks mounts :=
  List.flatMap_cons

theorem asksOf_eq (m : Mount) : asksOf m = (PartKind.script, m.script, m.component) ::
    ((PartKind.stylesheet.pathOf? m).map fun s => (PartKind.stylesheet, s, m.component)).toList := by
  rw [asksOf, List.filterMap_cons, List.filterMap_cons, List.filterMap_nil]
  cases hs : PartKind.stylesheet.pathOf? m <;> rfl

theorem filter_key_asksOf (kind : PartKind) (m : Mount) :
    ((asksOf m).map key).filter (fun k => k.1 = kind) = (kind.pathOf? m).toList.map fun p => (kind, p) := by
  rw [asksOf_eq]
  cases kind with
  | script => cases PartKind.stylesheet.pathOf? m <;> rfl
  | stylesheet => cases PartKind.stylesheet.pathOf? m <;> rfl

theorem find?_asksOf (kind : PartKind) (m : Mount) (path : String) :
    ((asksOf m).find? fun r => key r = (kind, path)).map (·.2.2) =
      if kind.pathOf? m = some path then some m.component else none := by
  rw [asksOf_eq]
  cases kind with
  | script =>
    by_cases hpath : m.script = path
    · simp [key, PartKind.pathOf?, hpath]
    · cases PartKind.stylesheet.pathOf? m <;> simp [key, PartKind.pathOf?, hpath]
  | stylesheet =>
    cases hs : PartKind.stylesheet.pathOf? m with
    | none => simp [key]
    | some s => by_cases hpath : s = path <;> simp [key, hpath]

theorem requests_eq (mounts : List Mount) : requests mounts = keepFirst key (asks mounts) := by
  have hany (done : List (PartKind × String × String)) (r : PartKind × String × String) :
      done.any (fun d => d.1 = r.1 && d.2.1 = r.2.1) = true ↔ key r ∈ done.map key := by
    simp [key]
  have hall : requests mounts = (asks mounts).foldl (fun done r =>
      if done.any (fun d => d.1 = r.1 && d.2.1 = r.2.1) then done else done ++ [r]) [] := by
    refine congrArg (List.foldl _ []) (List.flatMap_congr fun m _ => ?_)
    rw [asksOf_eq, PartKind.pathOf?]
    cases m.stylesheet with
    | none => rfl
    | some s => by_cases hempty : s.isEmpty <;> simp [hempty, Option.filter]
  rw [hall, keepFirst]
  refine congrArg (fun f => List.foldl f [] (asks mounts)) (funext₂ fun done r => ?_)
  by_cases hmem : key r ∈ done.map key
  · rw [if_pos ((hany done r).mpr hmem), if_pos hmem]
  · rw [if_neg (mt (hany done r).mp hmem), if_neg hmem]

/-- Each kind and path is asked for once, in the order of first appearance. -/
theorem map_key_requests (mounts : List Mount) :
    (requests mounts).map key = ((asks mounts).map key).eraseDups := by
  rw [requests_eq, map_keepFirst]

theorem filter_key_asks (kind : PartKind) (mounts : List Mount) :
    ((asks mounts).map key).filter (fun k => k.1 = kind) = (kind.paths mounts).map fun p => (kind, p) := by
  induction mounts with
  | nil => rfl
  | cons m mounts ih =>
    rw [asks_cons, List.map_append, List.filter_append, ih, filter_key_asksOf, PartKind.paths_cons,
      List.map_append]

theorem mem_keys {k : PartKind × String} : k ∈ (asks mounts).map key ↔ k.2 ∈ k.1.paths mounts := by
  have hfilter := filter_key_asks k.1 mounts
  constructor
  · intro hk
    have hmem : k ∈ ((asks mounts).map key).filter (fun x => x.1 = k.1) :=
      List.mem_filter.mpr ⟨hk, decide_eq_true rfl⟩
    rw [hfilter] at hmem
    obtain ⟨path, hpath, heq⟩ := List.mem_map.mp hmem
    rwa [← heq]
  · intro hpath
    have hmem := List.mem_map_of_mem (f := fun p => (k.1, p)) hpath
    rw [← hfilter] at hmem
    exact (List.mem_filter.mp hmem).1

/-- The paths of a kind that are asked for once each. -/
theorem map_filter_requests (kind : PartKind) (mounts : List Mount) :
    (((requests mounts).map key).filter (fun k => k.1 = kind)).map Prod.snd =
      (kind.paths mounts).eraseDups := by
  have hinjective : Function.Injective fun path : String => (kind, path) :=
    fun _ _ h => (Prod.mk.inj h).2
  -- the paths of one kind repeat where its keys do
  rw [map_key_requests, ← eraseDups_filter, filter_key_asks, eraseDups_map hinjective, List.map_map]
  exact List.map_id _

theorem find?_asks (kind : PartKind) (mounts : List Mount) (path : String) :
    ((asks mounts).find? fun r => key r = (kind, path)).map (·.2.2) = kind.asker mounts path := by
  induction mounts with
  | nil => rfl
  | cons m mounts ih =>
    rw [asks_cons, List.find?_append, Option.map_or, find?_asksOf, ih, PartKind.asker_cons]

/-- A request comes from the first mount that asks for its path. -/
theorem asker_of_mem_requests (hr : r ∈ requests mounts) : r.1.asker mounts r.2.1 = some r.2.2 := by
  rw [requests_eq, mem_keepFirst] at hr
  rw [← find?_asks]
  exact congrArg (Option.map (·.2.2)) hr

/-! ### Loading one file -/

/-- The loaded files of a kind. -/
def ofKind (parts : Parts) : PartKind → List Part
  | .script => parts.scripts
  | .stylesheet => parts.styles

/-- Puts a loaded file to those of its kind. -/
def add (kind : PartKind) (p : Part) (parts : Parts) : Parts :=
  match kind with
  | .script => { parts with scripts := parts.scripts ++ [p] }
  | .stylesheet => { parts with styles := parts.styles ++ [p] }

theorem ofKind_add (kind other : PartKind) (p : Part) (parts : Parts) :
    (parts.add kind p).ofKind other = parts.ofKind other ++ if kind = other then [p] else [] := by
  cases kind <;> cases other <;> simp [add, ofKind]

theorem missing_add (kind : PartKind) (p : Part) (parts : Parts) :
    (parts.add kind p).missing = parts.missing := by cases kind <;> rfl

theorem warnings_add (kind : PartKind) (p : Part) (parts : Parts) :
    (parts.add kind p).warnings = parts.warnings := by cases kind <;> rfl

theorem ofKind_leaveOut (kind : PartKind) (path message : String) (parts : Parts) :
    (parts.leaveOut path message).ofKind kind = parts.ofKind kind := by cases kind <;> rfl

/-- The file that a path leads to, with its text. -/
def opened? (w : Workspace) (places : Lookup) (path : String) : Option (Path × String) :=
  match Lookup.find w path places with
  | .ok (.file file _) =>
    match w.readText file with
    | .ok text => some (file, text)
    | .error _ => none
  | _ => none

theorem opened?_eq_some {file : Path} {text : String} : opened? w places path = some (file, text) ↔
    (∃ name, Lookup.find w path places = .ok (.file file name)) ∧ w.readText file = .ok text := by
  unfold opened?
  cases Lookup.find w path places with
  | error e => simp
  | ok found =>
    cases found with
    | missing requested tried => simp
    | file found name =>
      simp only [Except.ok.injEq, Found.file.injEq, exists_and_left, exists_eq', and_true]
      constructor
      · intro h
        split at h
        · next text' hread =>
          obtain ⟨rfl, rfl⟩ := Prod.mk.inj (Option.some.inj h)
          exact ⟨rfl, hread⟩
        · cases h
      · rintro ⟨rfl, hread⟩
        simp only [hread]

/-- The part that a request gives. -/
def part? (w : Workspace) (places : Lookup) (r : PartKind × String × String) : Option Part :=
  (opened? w places r.2.1).map fun o => ⟨r.2.1, o.1.toText, r.2.2, r.1.content o.2⟩

/-- The warnings that a file can be left out with. -/
inductive LeftOut (w : Workspace) (places : Lookup) (kind : PartKind) (path component : String) :
    String → Prop where
  | missing {requested : String} {tried : List String}
      (hfind : Lookup.find w path places = .ok (.missing requested tried)) :
      LeftOut w places kind path component
        ("Could not resolve " ++ kind.word ++ " for component " ++ component ++ ": " ++ path)
  | unreadable {file : Path} {place : String} {e : TextFileError}
      (hfind : Lookup.find w path places = .ok (.file file place)) (hread : w.readText file = .error e) :
      LeftOut w places kind path component
        ("Could not read " ++ kind.word ++ " for component " ++ component ++ " (" ++ file.toText ++
          "): " ++ e.message)

theorem part?_of_opened? (r : PartKind × String × String) {file : Path} {text : String}
    (h : opened? w places r.2.1 = some (file, text)) :
    part? w places r = some ⟨r.2.1, file.toText, r.2.2, r.1.content text⟩ := by
  rw [part?, h]
  rfl

theorem part?_eq_none : part? w places r = none ↔ opened? w places r.2.1 = none :=
  Option.map_eq_none_iff

/-- A file is either put to those of its kind or left out with a warning. -/
theorem loadOne_cases (h : loadOne w places parts r = .ok parts') :
    (∃ p, part? w places r = some p ∧ parts' = parts.add r.1 p) ∨
      part? w places r = none ∧ ∃ warning, LeftOut w places r.1 r.2.1 r.2.2 warning ∧
        parts' = parts.leaveOut r.2.1 warning := by
  obtain ⟨kind, path, component⟩ := r
  unfold loadOne at h
  cases hfind : Lookup.find w path places with
  | error e =>
    simp only [hfind] at h
    cases h
  | ok found =>
    cases found with
    | missing requested tried =>
      simp only [hfind] at h
      cases h
      exact .inr ⟨part?_eq_none.mpr (by simp only [opened?, hfind]), _, .missing hfind, rfl⟩
    | file file place =>
      cases hread : w.readText file with
      | error e =>
        simp only [hfind, hread] at h
        cases h
        exact .inr ⟨part?_eq_none.mpr (by simp only [opened?, hfind, hread]), _, .unreadable hfind hread,
          rfl⟩
      | ok text =>
        have hopened : opened? w places path = some (file, text) := by simp only [opened?, hfind, hread]
        simp only [hfind, hread] at h
        refine .inl ⟨_, part?_of_opened? _ hopened, ?_⟩
        cases kind with
        | script => exact (Except.ok.inj h).symm
        | stylesheet => exact (Except.ok.inj h).symm

/-! ### Loading all files -/

/-- The parts of a kind that requests give. -/
def given (w : Workspace) (places : Lookup) (kind : PartKind) (rs : List (PartKind × String × String)) :
    List Part := (rs.filter fun r => r.1 = kind).filterMap (part? w places)

/-- The requests that give no part. -/
def refused (w : Workspace) (places : Lookup) (rs : List (PartKind × String × String)) :
    List (PartKind × String × String) := rs.filter fun r => (opened? w places r.2.1).isNone

theorem given_cons_some {rs : List (PartKind × String × String)} (hp : part? w places r = some p) :
    given w places kind (r :: rs) = (if r.1 = kind then [p] else []) ++ given w places kind rs := by
  by_cases hkind : r.1 = kind
  · simp [given, hkind, hp]
  · simp [given, hkind]

theorem given_cons_none {rs : List (PartKind × String × String)} (hnone : part? w places r = none) :
    given w places kind (r :: rs) = given w places kind rs := by
  by_cases hkind : r.1 = kind
  · simp [given, hkind, hnone]
  · simp [given, hkind]

/-- What loading adds: the parts that the requests give, and for each of the others its path and a
warning. -/
theorem foldlM_loadOne {rs : List (PartKind × String × String)}
    (h : rs.foldlM (loadOne w places) parts = .ok parts') :
    (∀ kind, parts'.ofKind kind = parts.ofKind kind ++ given w places kind rs) ∧
      parts'.missing = parts.missing ++ (refused w places rs).map (·.2.1) ∧
      ∃ warnings, parts'.warnings = parts.warnings ++ warnings ∧
        List.Forall₂ (fun r warning => LeftOut w places r.1 r.2.1 r.2.2 warning) (refused w places rs)
          warnings := by
  induction rs generalizing parts with
  | nil =>
    cases h
    refine ⟨fun kind => (List.append_nil _).symm, (List.append_nil _).symm, [], ?_, .nil⟩
    exact (List.append_nil _).symm
  | cons r rs ih =>
    rw [List.foldlM_cons] at h
    obtain ⟨next, hnext, hrest⟩ := bind_eq_ok.mp h
    obtain ⟨hparts, hmissing, warnings, hwarnings, hleft⟩ := ih hrest
    -- one request gives a part, or one missing path with one warning
    rcases loadOne_cases hnext with ⟨p, hp, rfl⟩ | ⟨hnone, warning, hwarning, rfl⟩
    · obtain ⟨opened, hopened, -⟩ := Option.map_eq_some_iff.mp hp
      have hrefused : refused w places (r :: rs) = refused w places rs := by simp [refused, hopened]
      rw [hrefused]
      refine ⟨fun kind => ?_, ?_, warnings, ?_, hleft⟩
      · rw [hparts, ofKind_add, given_cons_some hp, List.append_assoc]
      · rw [hmissing, missing_add]
      · rw [hwarnings, warnings_add]
    · have hrefused : refused w places (r :: rs) = r :: refused w places rs := by
        simp [refused, part?_eq_none.mp hnone]
      rw [hrefused]
      refine ⟨fun kind => ?_, ?_, warning :: warnings, ?_, .cons hwarning hleft⟩
      · rw [hparts, ofKind_leaveOut, given_cons_none hnone]
      · rw [hmissing, List.map_cons, List.append_cons]
        rfl
      · rw [hwarnings, List.append_cons]
        rfl

/-- The files that cannot be opened, of those that mounts ask for: each kind and path once, in the order
of first appearance. -/
def failures (w : Workspace) (places : Lookup) (mounts : List Mount) : List (PartKind × String) :=
  (((asks mounts).map key).eraseDups).filter fun k => (opened? w places k.2).isNone

/-- What loading owes to the mounts. -/
structure LoadsEach (w : Workspace) (places : Lookup) (mounts : List Mount) (parts : Parts) : Prop where
  requested : ∀ kind, (parts.ofKind kind).map (·.requested) =
    (kind.paths mounts).eraseDups.filter fun path => (opened? w places path).isSome
  loaded : ∀ kind, ∀ p ∈ parts.ofKind kind, kind.asker mounts p.requested = some p.component ∧
    ∃ file text, opened? w places p.requested = some (file, text) ∧ p.resolved = file.toText ∧
      p.content = kind.content text
  once : ∀ kind : PartKind, ∀ path ∈ kind.paths mounts,
    ((parts.ofKind kind).map (·.requested)).count path = 1 ∧ path ∉ parts.missing ∨
      ((parts.ofKind kind).map (·.requested)).count path = 0 ∧ path ∈ parts.missing
  missing : parts.missing = (failures w places mounts).map Prod.snd
  warnings : List.Forall₂ (fun k warning => ∃ component, k.1.asker mounts k.2 = some component ∧
    LeftOut w places k.1 k.2 component warning) (failures w places mounts) parts.warnings

theorem map_requested_given (kind : PartKind) (rs : List (PartKind × String × String)) :
    (given w places kind rs).map (·.requested) =
      (((rs.map key).filter fun k => k.1 = kind).map Prod.snd).filter fun path =>
        (opened? w places path).isSome := by
  induction rs with
  | nil => rfl
  | cons r rs ih =>
    cases hopened : opened? w places r.2.1 with
    | none =>
      rw [given_cons_none (part?_eq_none.mpr hopened), ih]
      by_cases hkind : r.1 = kind
      · simp [key, hkind, hopened]
      · simp [key, hkind]
    | some opened =>
      rw [given_cons_some (part?_of_opened? r hopened), List.map_append, ih]
      by_cases hkind : r.1 = kind
      · simp [key, hkind, hopened]
      · simp [key, hkind]

theorem map_key_refused (mounts : List Mount) :
    (refused w places (requests mounts)).map key = failures w places mounts := by
  rw [failures, ← map_key_requests, List.filter_map]
  rfl

theorem mem_failures {k : PartKind × String} : k ∈ failures w places mounts ↔
    k.2 ∈ k.1.paths mounts ∧ opened? w places k.2 = none := by
  rw [failures, List.mem_filter, List.mem_eraseDups, mem_keys, Option.isNone_iff_eq_none]

theorem loadsEach_of_load (h : load w places mounts = .ok parts) : LoadsEach w places mounts parts := by
  obtain ⟨hparts, hmissing, warnings, hwarnings, hleft⟩ := foldlM_loadOne h
  have hgiven (kind : PartKind) : parts.ofKind kind = given w places kind (requests mounts) := by
    rw [hparts]
    cases kind <;> rfl
  have hrequested (kind : PartKind) : (parts.ofKind kind).map (·.requested) =
      (kind.paths mounts).eraseDups.filter fun path => (opened? w places path).isSome := by
    rw [hgiven, map_requested_given, map_filter_requests]
  have hfailed : parts.missing = (failures w places mounts).map Prod.snd := by
    rw [hmissing, ← map_key_refused, List.map_map]
    rfl
  -- what one path leads to does not change between its kinds, so it is loaded or missing as both
  refine ⟨hrequested, fun kind p hp => ?_, fun kind path hpath => ?_, hfailed, ?_⟩
  · rw [hgiven] at hp
    obtain ⟨r, hof, hpart⟩ := List.mem_filterMap.mp hp
    obtain ⟨hr, hkind⟩ := List.mem_filter.mp hof
    obtain rfl := of_decide_eq_true hkind
    obtain ⟨⟨file, text⟩, hopened, rfl⟩ := Option.map_eq_some_iff.mp hpart
    exact ⟨asker_of_mem_requests hr, file, text, hopened, rfl, rfl⟩
  · have hnodup := (nodup_eraseDups (kind.paths mounts)).filter fun path => (opened? w places path).isSome
    rw [hrequested, hfailed]
    cases hopened : opened? w places path with
    | some opened =>
      refine .inl ⟨List.count_eq_one_of_mem hnodup ?_, fun hmem => ?_⟩
      · exact List.mem_filter.mpr ⟨List.mem_eraseDups.mpr hpath, by rw [hopened]; rfl⟩
      · obtain ⟨k, hk, rfl⟩ := List.mem_map.mp hmem
        rw [(mem_failures.mp hk).2] at hopened
        cases hopened
    | none =>
      refine .inr ⟨List.count_eq_zero.mpr fun hmem => ?_, ?_⟩
      · have hsome := (List.mem_filter.mp hmem).2
        rw [hopened] at hsome
        cases hsome
      · exact List.mem_map.mpr ⟨(kind, path), mem_failures.mpr ⟨hpath, hopened⟩, rfl⟩
  · rw [hwarnings, ← map_key_refused, List.forall₂_map_left_iff]
    have hasker : ∀ r ∈ refused w places (requests mounts), r.1.asker mounts r.2.1 = some r.2.2 :=
      fun r hr => asker_of_mem_requests (List.mem_filter.mp hr).1
    refine ((List.forall₂_and_left _ _).mpr ⟨hasker, hleft⟩).imp fun {r warning} hr => ?_
    exact ⟨r.2.2, hr⟩

/-- Where no look-up fails, loading tries each kind and path once, in the order of first appearance. Every
path gives one part or is missing, and each missing one adds a warning, also to those of the extraction. -/
theorem load_each_once (w : Workspace) (places : Lookup) (mounts : List Mount)
    (hlook : ∀ kind : PartKind, ∀ path ∈ kind.paths mounts, ¬Fails (Lookup.find w path places)) :
    load w places mounts = (requests mounts).foldlM (loadOne w places) empty ∧
    (requests mounts).map key = ((asks mounts).map key).eraseDups ∧
    ((requests mounts).map key).Nodup ∧
    ∃ parts, load w places mounts = .ok parts ∧ LoadsEach w places mounts parts ∧
      ∀ script scenes warnings, Lookup.usual w script = .ok places →
        Mount.extract w places scenes = .ok ⟨mounts, warnings⟩ →
        Compiler.componentsOf w script scenes = .ok (mounts, parts, warnings ++ parts.warnings) := by
  have hkeys := map_key_requests mounts
  refine ⟨rfl, hkeys, by rw [hkeys]; exact nodup_eraseDups _, ?_⟩
  cases hload : load w places mounts with
  | error e =>
    obtain ⟨r, hr, hfails⟩ := fails_load.mp ⟨e, hload⟩
    have hpath : key r ∈ (asks mounts).map key := by
      rw [← List.mem_eraseDups, ← hkeys]
      exact List.mem_map_of_mem hr
    exact absurd hfails (hlook r.1 r.2.1 (mem_keys.mp hpath))
  | ok parts =>
    refine ⟨parts, rfl, loadsEach_of_load hload, fun script scenes warnings hplaces hextract => ?_⟩
    exact bind_eq_ok.mpr ⟨places, mapError_eq_ok.mpr hplaces, bind_eq_ok.mpr ⟨_, mapError_eq_ok.mpr hextract,
      bind_eq_ok.mpr ⟨parts, mapError_eq_ok.mpr hload, rfl⟩⟩⟩

/-- A script in a directory below the root. -/
def stage : Workspace :=
  ⟨⟨[(["c"], .directory), (["c", "k.js"], .file [107])]⟩, ⟨"/", []⟩, ⟨"/", []⟩, ⟨"/", []⟩⟩

def wings : Lookup := [⟨"script_dir", .directory ⟨"/", []⟩⟩]

/-- Two mounts that share a script, and one whose script is not there. -/
def company : List Mount :=
  [⟨"1", "K", "c/k.js", some "c/k.css", "a", [], "intro", 0⟩,
    ⟨"2", "L", "c/k.js", some "", "b", [], "intro", 0⟩,
    ⟨"3", "M", "c/m.js", some "c/k.css", "c", [], "intro", 1⟩]

theorem load_each_once_company :
    (∀ kind : PartKind, ∀ path ∈ kind.paths company, ¬Fails (Lookup.find stage path wings)) ∧
    ∃ parts, load stage wings company = .ok parts ∧ LoadsEach stage wings company parts ∧
      parts.scripts.map (fun p => (p.requested, p.resolved, p.component)) = [("c/k.js", "/c/k.js", "K")] ∧
      parts.missing = ["c/k.css", "c/m.js"] := by
  have hfound : ∀ kind ∈ [PartKind.script, .stylesheet], ∀ path ∈ kind.paths company,
      (Lookup.find stage path wings).isOk = true := by decide +kernel
  have hlook : ∀ kind : PartKind, ∀ path ∈ kind.paths company, ¬Fails (Lookup.find stage path wings) := by
    rintro kind path hpath ⟨e, he⟩
    have hok := hfound kind (by cases kind <;> decide) path hpath
    rw [he] at hok
    cases hok
  obtain ⟨-, -, -, parts, hload, heach, -⟩ := load_each_once stage wings company hlook
  have hparts : (load stage wings company).toOption.map (fun parts =>
      (parts.scripts.map (fun p => (p.requested, p.resolved, p.component)), parts.missing)) =
        some ([("c/k.js", "/c/k.js", "K")], ["c/k.css", "c/m.js"]) := by decide +kernel
  rw [hload] at hparts
  obtain ⟨hscripts, hmissing⟩ := Prod.mk.inj (Option.some.inj hparts)
  exact ⟨hlook, parts, hload, heach, hscripts, hmissing⟩

end Parts
end Storybind
