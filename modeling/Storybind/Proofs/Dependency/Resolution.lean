import Mathlib.Tactic
import Storybind.Proofs.Dependency.Assembly
import Storybind.Proofs.Dependency.Attempts
import Storybind.Proofs.Dependency.Order
import Storybind.Proofs.Dependency.Turns

/-!
Resolving declarations when every fault in fetching is one that counts as an attempt: the bundle
holds the declarations in their stable order, each with what its own location gave.
-/

namespace Storybind

namespace Fetch

/-- Every bundled library has a key, the waits between its attempts can be told, and whatever was
asked for before, an attempt at one of their locations brings content or a fault that counts. -/
structure Caught (w : Workspace) (settings : Settings) (base : Option Path)
    (ds : List Declaration) (n : Web.Network) : Prop where
  waits : ∀ d ∈ ds, d.kind = .bundled → WaitsTold settings
  keys : ∀ d ∈ ds, d.kind = .bundled → ∃ key, cacheKey w base (d.url.getD "") = .ok key
  answers : ∀ log m, Reached w settings base (Declaration.locations ds) n log m →
    ∀ location ∈ Declaration.locations ds,
      ∃ r, (attempt w settings base location m).1 = .ok r

/-- Files bring content or a fault that counts as soon as their paths can be told. -/
theorem caught_of_files {w : Workspace} {settings : Settings} {base : Option Path}
    {ds : List Declaration} (hwaits : WaitsTold settings)
    (hweb : ∀ location ∈ Declaration.locations ds, isWebAddress location = false)
    (hfile : ∀ location ∈ Declaration.locations ds, ∃ r, ofFile w base location = .ok r)
    (n : Web.Network) : Caught w settings base ds n where
  waits := fun _ _ _ => hwaits
  keys := by
    intro d hd hk
    have hl := Declaration.mem_locations hd hk
    obtain ⟨r, hr⟩ := hfile _ hl
    rw [cacheKey, hweb _ hl, if_neg Bool.false_ne_true]
    cases hp : localPath w base (d.url.getD "") with
    | ok p => exact ⟨p.toText, rfl⟩
    | error e =>
      rw [ofFile, hp] at hr
      cases hr
  answers := by
    intro log m _ location hl
    rw [attempt_file (hweb location hl)]
    split
    · exact ⟨_, rfl⟩
    · exact hfile location hl

section

variable (w : Workspace) (settings : Settings) (base : Option Path) (locations : List String)
  (n : Web.Network) (cache : Cache)

/-- An attempt at a library's own location comes to a result, after some others. -/
def Comes (d : Declaration) (v : Except Fault String) : Prop :=
  ∃ log m r, Reached w settings base locations n log m ∧
    (attempt w settings base (d.url.getD "") m).1 = .ok r ∧ judged d.integrity r = v

/-- A bundled library whose content is not in the cache, or not as its integrity value asks. -/
structure Missed (d : Declaration) (key : String) : Prop where
  bundled : d.kind = .bundled
  hasKey : cacheKey w base (d.url.getD "") = .ok key
  unheld : cached? d key cache = .ok none

/-- What fetching gives for a library: nothing if it is not bundled, what is cached under its key,
the content of its own location after faults that leave an attempt, or the last fault of as many as
there are attempts. -/
inductive Gives (d : Declaration) : Outcome → Prop
  | unfetched (hk : d.kind ≠ .bundled) : Gives d .unfetched
  | cached {key content : String} (hk : d.kind = .bundled)
      (hkey : cacheKey w base (d.url.getD "") = .ok key)
      (hit : cached? d key cache = .ok (some content)) : Gives d (.content content)
  | content {key content : String} (faults : List Fault) (hm : Missed w base cache d key)
      (hleft : faults.length < maxAttempts settings)
      (hf : ∀ f ∈ faults, Comes w settings base locations n d (.error f))
      (hc : Comes w settings base locations n d (.ok content)) : Gives d (.content content)
  | givenUp {key : String} (last : Fault) (earlier : List Fault) (hm : Missed w base cache d key)
      (hall : (last :: earlier).length = maxAttempts settings)
      (hf : ∀ f ∈ last :: earlier, Comes w settings base locations n d (.error f)) :
      Gives d (.givenUp (Download.finalComplaint settings last.message))

end

end Fetch

namespace Download

open Fetch

/-- The complaint about the last of some attempts, the last one first. -/
def complaintOf : List Fault → String
  | [] => "no attempt made"
  | f :: _ => f.message

section

variable (w : Workspace) (settings : Settings) (base : Option Path) (locations : List String)
  (n : Web.Network) (cache : Cache)

/-- How a download can stand that was fetched in any number of rounds. -/
inductive Stands (d : Declaration) : Download → Prop
  | idle (hk : d.kind ≠ .bundled) : Stands d .idle
  | cached {key content : String} (hk : d.kind = .bundled)
      (hkey : cacheKey w base (d.url.getD "") = .ok key)
      (hit : cached? d key cache = .ok (some content)) : Stands d (.arrived content)
  | waiting {key : String} (faults : List Fault) (hm : Missed w base cache d key)
      (hN : faults.length ≤ maxAttempts settings)
      (hf : ∀ f ∈ faults, Comes w settings base locations n d (.error f)) :
      Stands d (.waiting d key faults.length (complaintOf faults))
  | arrived {key content : String} (faults : List Fault) (hm : Missed w base cache d key)
      (hleft : faults.length < maxAttempts settings)
      (hf : ∀ f ∈ faults, Comes w settings base locations n d (.error f))
      (hc : Comes w settings base locations n d (.ok content)) : Stands d (.arrived content)

end

variable {w : Workspace} {settings : Settings} {base : Option Path} {locations : List String}
  {n : Web.Network} {cache : Cache} {d : Declaration}

theorem stands_start (hd : d.IsValid)
    (hkey : d.kind = .bundled → ∃ key, cacheKey w base (d.url.getD "") = .ok key) :
    Stands w settings base locations n cache d (start w base cache d) := by
  by_cases hk : d.kind = .bundled
  · obtain ⟨key, hkey⟩ := hkey hk
    rcases start_cases hd hk hkey with ⟨content, hhit, hstart⟩ | ⟨hmiss, hstart⟩
    · rw [hstart]
      exact Stands.cached hk hkey hhit
    · rw [hstart]
      exact Stands.waiting [] ⟨hk, hkey, hmiss⟩ (Nat.zero_le _) (by simp)
  · rw [start_unbundled hk]
    exact Stands.idle hk

/-- An attempt adds a fault or brings the content. -/
theorem stands_attempt {key : String} {faults : List Fault} {s : State} {log : List String}
    {r : Except Fault Bytes} (hwaits : WaitsTold settings) (hd : d.IsValid)
    (hm : Missed w base cache d key) (hleft : faults.length < maxAttempts settings)
    (hf : ∀ f ∈ faults, Comes w settings base locations n d (.error f))
    (hs : Reached w settings base locations n log s.network)
    (hr : (Fetch.attempt w settings base (d.url.getD "") s.network).1 = .ok r) :
    Stands w settings base locations n cache d
      (attempt w settings base d key (faults.length + 1) s).1 := by
  have hcomes : Comes w settings base locations n d (judged d.integrity r) :=
    ⟨log, s.network, r, hs, hr, rfl⟩
  simp only [attempt]
  rw [hr, goOn_fst hd]
  -- content ends the download; a fault is the latest of one more attempt
  cases hj : judged d.integrity r with
  | ok content =>
    rw [hj] at hcomes
    exact Stands.arrived faults hm hleft hf hcomes
  | error fault =>
    rw [hj] at hcomes
    have hall : ∀ f ∈ fault :: faults, Comes w settings base locations n d (.error f) := by
      intro f hmem
      rcases List.mem_cons.mp hmem with rfl | hmem
      · exact hcomes
      · exact hf f hmem
    rw [settled, if_neg (hwaits.not_untold _)]
    exact Stands.waiting (fault :: faults) hm hleft hall

theorem stands_advance {ds : List Declaration} {x : Download} {s : State}
    (hcaught : Caught w settings base ds n) (hmem : d ∈ ds) (hd : d.IsValid)
    (hx : Stands w settings base (Declaration.locations ds) n cache d x)
    (hs : ∃ log, Reached w settings base (Declaration.locations ds) n log s.network) :
    Stands w settings base (Declaration.locations ds) n cache d (advance w settings base x s).1 ∧
      ∃ log, Reached w settings base (Declaration.locations ds) n log
        (advance w settings base x s).2.network := by
  cases hx with
  | idle hk => exact ⟨Stands.idle hk, hs⟩
  | cached hk hkey hit => exact ⟨Stands.cached hk hkey hit, hs⟩
  | arrived faults hm hleft hf hc => exact ⟨Stands.arrived faults hm hleft hf hc, hs⟩
  | @waiting key faults hm hN hf =>
    obtain ⟨log, hlog⟩ := hs
    simp only [advance]
    split
    · next hopen =>
      have hleft : faults.length < maxAttempts settings := of_decide_eq_true hopen
      have hl := Declaration.mem_locations hmem hm.bundled
      obtain ⟨r, hr⟩ := hcaught.answers log s.network hlog _ hl
      have hwaits := hcaught.waits d hmem hm.bundled
      refine ⟨stands_attempt hwaits hd hm hleft hf hlog hr, d.url.getD "" :: log, ?_⟩
      simp only [attempt]
      rw [hr]
      exact reached_goOn (.ok r) (hlog.asked hl)
    · exact ⟨Stands.waiting faults hm hN hf, log, hlog⟩

/-- A download without an attempt left gives what fetching gives. -/
theorem gives_of_stands {x : Download} (hx : Stands w settings base locations n cache d x)
    (hclosed : x.isOpen settings = false) :
    ∃ o, outcome settings x = .ok o ∧ Gives w settings base locations n cache d o := by
  cases hx with
  | idle hk => exact ⟨.unfetched, rfl, Gives.unfetched hk⟩
  | @cached key content hk hkey hit => exact ⟨.content content, rfl, Gives.cached hk hkey hit⟩
  | @arrived key content faults hm hleft hf hc =>
    exact ⟨.content content, rfl, Gives.content faults hm hleft hf hc⟩
  | @waiting key faults hm hN hf =>
    have hmany : maxAttempts settings ≤ faults.length := by simpa [isOpen] using hclosed
    have hpos := maxAttempts_pos settings
    cases faults with
    -- at least one attempt is made, so there is a last fault to complain about
    | nil => exact absurd hmany (by simp; omega)
    | cons last earlier =>
      exact ⟨.givenUp _, rfl, Gives.givenUp last earlier hm (Nat.le_antisymm hN hmany) hf⟩

theorem any_isBroken_of_stands {ds : List Declaration} {xs : List Download}
    (h : List.Forall₂ (Stands w settings base locations n cache) ds xs) :
    xs.any isBroken = false := by
  induction h with
  | nil => rfl
  | cons hx _ ih =>
    rw [List.any_cons, ih]
    cases hx <;> rfl

/-- Downloads without an attempt left give one outcome for every library, at its place. -/
theorem outcomes_of_stands {ds : List Declaration} {xs : List Download}
    (h : List.Forall₂ (Stands w settings base locations n cache) ds xs)
    (hclosed : ∀ x ∈ xs, x.isOpen settings = false) :
    ∃ os, xs.mapM (outcome settings) = .ok os ∧
      List.Forall₂ (Gives w settings base locations n cache) ds os := by
  induction h with
  | nil => exact ⟨[], rfl, List.Forall₂.nil⟩
  | cons hx _ ih =>
    obtain ⟨o, ho, hgives⟩ := gives_of_stands hx (hclosed _ List.mem_cons_self)
    obtain ⟨os, hos, hall⟩ := ih fun y hy => hclosed y (List.mem_cons_of_mem _ hy)
    refine ⟨o :: os, ?_, List.Forall₂.cons hgives hall⟩
    rw [List.mapM_cons, ho, hos]
    rfl

/-- Fetching gives one outcome for every library, at its place. -/
theorem fetchAll_gives {ds sorted : List Declaration} {s : State} (hperm : sorted.Perm ds)
    (hvalid : ∀ d ∈ ds, d.IsValid) (hcaught : Caught w settings base ds s.network) :
    ∃ os s', fetchAll w settings base sorted s = (.ok os, s') ∧
      List.Forall₂ (Gives w settings base (Declaration.locations ds) s.network s.cache)
        sorted os := by
  -- each download stands as it may, and the network is one that the locations lead to
  let P := fun d x => d ∈ ds ∧
    Stands w settings base (Declaration.locations ds) s.network s.cache d x
  let I := fun s' : State => ∃ log,
    Reached w settings base (Declaration.locations ds) s.network log s'.network
  have hstart : List.Forall₂ P sorted (sorted.map (start w base s.cache)) := by
    rw [List.forall₂_map_right_iff, List.forall₂_same]
    intro d hd
    have hd := hperm.mem_iff.mp hd
    exact ⟨hd, stands_start (hvalid d hd) (hcaught.keys d hd)⟩
  have hstep : ∀ d x s', P d x → I s' →
      P d (advance w settings base x s').1 ∧ I (advance w settings base x s').2 := by
    intro d x s' hx hs'
    obtain ⟨h, h'⟩ := stands_advance hcaught hx.1 (hvalid d hx.1) hx.2 hs'
    exact ⟨⟨hx.1, h⟩, h'⟩
  have hrounds := (rounds_forall₂ hstep (maxAttempts settings) hstart ⟨[], Reached.start⟩).1
  have hstands := hrounds.imp fun d x h => h.2
  have hclosed := (fetchAll_closed w settings base sorted s).resolve_left
    (by rw [any_isBroken_of_stands hstands]; exact Bool.false_ne_true)
  obtain ⟨os, hos, hgives⟩ := outcomes_of_stands hstands hclosed
  refine ⟨os, (rounds w settings base (maxAttempts settings) (sorted.map (start w base s.cache)) s).2,
    ?_, hgives⟩
  simp only [fetchAll]
  rw [hos]

end Download

namespace Bundle

open Fetch Declaration

variable {w : Workspace} {settings : Settings} {base : Option Path}

theorem fetched_of_gives {locations : List String} {n : Web.Network} {cache : Cache}
    {xs : List (Declaration × Outcome)}
    (h : ∀ x ∈ xs, Gives w settings base locations n cache x.1 x.2) : Fetched xs := by
  intro x hx
  obtain ⟨d, o⟩ := x
  have hgives := h _ hx
  cases hgives with
  | unfetched hk => exact ⟨fun _ => hk, fun _ => rfl⟩
  | cached hk _ _ => exact ⟨fun ho => Outcome.noConfusion ho, fun hn => absurd hk hn⟩
  | content _ hm _ _ _ => exact ⟨fun ho => Outcome.noConfusion ho, fun hn => absurd hm.bundled hn⟩
  | givenUp _ _ hm _ _ => exact ⟨fun ho => Outcome.noConfusion ho, fun hn => absurd hm.bundled hn⟩

/-- Resolving valid declarations, every fault being one that counts as an attempt, gives a bundle
put together from the declarations in their stable order, each with what its own location gave. -/
theorem resolve_assembles {ds : List Declaration} {s : State} (minify : Bool)
    (hvalid : ∀ d ∈ ds, d.IsValid) (hcaught : Caught w settings base ds s.network) :
    ∃ xs b s', resolve w settings base minify ds s = (.ok b, s') ∧
      IsStableSort ds (xs.map Prod.fst) ∧
      (∀ x ∈ xs, Gives w settings base (locations ds) s.network s.cache x.1 x.2) ∧
      Assembles minify xs b := by
  have hsort := isStableSort_byPriority ds
  obtain ⟨os, s', hfetch, hgives⟩ := Download.fetchAll_gives hsort.perm hvalid hcaught
  have hlength := hgives.length_eq
  -- outcomes stay at the places of their declarations
  have hzip : ∀ x ∈ (byPriority ds).zip os,
      Gives w settings base (locations ds) s.network s.cache x.1 x.2 :=
    fun x hx => List.forall₂_zip hgives hx
  refine ⟨(byPriority ds).zip os, _, s', ?_, ?_, hzip,
    assembles_ofOutcomes (fetched_of_gives hzip) s'.cache⟩
  · simp only [resolve]
    rw [hfetch]
    rfl
  · rw [List.map_fst_zip (le_of_eq hlength)]
    exact hsort

/-- A workspace with one script, and a script library, a missing style sheet, a remote library and
an inline one. -/
def shelf : Workspace := ⟨⟨[(["lib.js"], .file [118, 49])]⟩, ⟨"/", []⟩, ⟨"/", []⟩, ⟨"/", []⟩⟩

def shelfSettings : Settings :=
  ⟨20, 2, 1, 8, 4, true, "page", "https://cdn.example/", "", "default", "info", "/", false⟩

def shelfLibrary (name : String) (kind : DependencyKind) (url content : Option String)
    (priority : Int) : Declaration :=
  ⟨name, kind, url, none, none, priority, false, false, false, false, none, none, .script, content,
    none⟩

def shelfLibraries : List Declaration :=
  [shelfLibrary "lib" .bundled (some "/lib.js") none 60,
    shelfLibrary "gone" .bundled (some "/gone.js") none 50,
    shelfLibrary "remote" .remote (some "https://cdn.example/a.js") none 50,
    shelfLibrary "start" .inlined none (some "go()") 10]

theorem resolve_assembles_shelf :
    ∃ xs b s', resolve shelf shelfSettings none true shelfLibraries ⟨.empty, .empty true⟩ =
        (.ok b, s') ∧
      IsStableSort shelfLibraries (xs.map Prod.fst) ∧
      (∀ x ∈ xs, Gives shelf shelfSettings none (locations shelfLibraries) .empty (.empty true)
        x.1 x.2) ∧
      Assembles true xs b := by
  refine resolve_assembles true (fun d hd => ?_) (caught_of_files (by decide) ?_ ?_ _)
  · simp only [shelfLibraries, List.mem_cons, List.not_mem_nil, or_false] at hd
    rcases hd with rfl | rfl | rfl | rfl
    all_goals exact ⟨by decide, by decide, nofun⟩
  · decide
  · intro location hl
    have hl : location = "/lib.js" ∨ location = "/gone.js" := by simpa [locations, shelfLibraries, shelfLibrary] using hl
    rcases hl with rfl | rfl
    · exact ⟨_, rfl⟩
    · exact ⟨_, rfl⟩

/-- More attempts than waits can be told between. -/
def patient : Settings := { shelfSettings with fetchRetries := 1026 }

/-- A library that is nowhere. -/
def gone : Declaration := shelfLibrary "gone" .bundled (some "/gone.js") none 50

theorem isValid_gone : gone.IsValid := ⟨by decide, by decide, nofun⟩

/-- What is said of a library that is nowhere. -/
def goneFault : Fault := .file ⟨.notFound, "/gone.js", none⟩

theorem attempt_gone (n : Web.Network) :
    (attempt shelf patient none "/gone.js" n).1 = .ok (.error goneFault) := by
  rw [attempt_file (by decide)]
  rfl

theorem resolve_gone : (resolve shelf patient none false [gone] ⟨.empty, .empty true⟩).1 =
    .error (.wait .tooLarge) :=
  resolve_of_untold isValid_gone rfl rfl rfl (by decide)
    (fun n => ⟨_, _, attempt_gone n, rfl⟩) false

/-- Faults that count as attempts do not always lead to a bundle: in the end a wait cannot be told.
-/
theorem not_assembled_gone :
    ¬∀ (settings : Settings) (w : Workspace) (ds : List Declaration) (s : State),
      (∀ d ∈ ds, d.IsValid) →
      (∀ d ∈ ds, d.kind = .bundled → ∃ key, cacheKey w none (d.url.getD "") = .ok key) →
      (∀ location ∈ locations ds, ∀ n, ∃ r, (attempt w settings none location n).1 = .ok r) →
      ∃ b s', resolve w settings none false ds s = (.ok b, s') := by
  intro h
  obtain ⟨b, s', hb⟩ := h patient shelf [gone] ⟨.empty, .empty true⟩
    (List.forall_mem_singleton.mpr isValid_gone) (List.forall_mem_singleton.mpr fun _ => ⟨_, rfl⟩)
    (List.forall_mem_singleton.mpr fun n => ⟨_, attempt_gone n⟩)
  have hbroken := resolve_gone
  rw [hb] at hbroken
  cases hbroken

end Bundle
end Storybind
