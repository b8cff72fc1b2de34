import Mathlib.Tactic
import Storybind.Dependency.Bundle
import Storybind.Proofs.Dependency.Order
import Storybind.Proofs.Dependency.Stock
import Storybind.Proofs.Text.Utf8

/-!
Resolving again and again with one cache. On a steady network the bundles are those that come without
a cache, as long as no text has a digest asked for that its bytes have not; the digest of cached
content is that of its text.
-/

namespace Storybind

/-- One resolution of libraries: by whose settings, from where, and how. -/
structure Call where
  settings : Settings
  base : Option String
  minify : Bool
  declarations : List Declaration

namespace Call

def resolve (w : Workspace) (c : Call) (s : Fetch.State) :
    Except Fetch.Breakdown Bundle × Fetch.State :=
  Bundle.resolve w c.settings (c.base.map Path.ofString) c.minify c.declarations s

/-- What resolutions one after another give. -/
def resolveEach (w : Workspace) :
    List Call → Fetch.State → List (Except Fetch.Breakdown Bundle)
  | [], _ => []
  | c :: rest, s => (c.resolve w s).1 :: resolveEach w rest (c.resolve w s).2

/-- Whether a call leaves time for an attempt. -/
def IsTimed (c : Call) : Prop := ¬c.settings.fetchTimeout ≤ 0

/-- Whether no text of a body has a digest that a library asks for and the body has not. -/
def Honest (w : Workspace) (n : Web.Network) (c : Call) : Prop :=
  ∀ d ∈ c.declarations, d.kind = .bundled → ∀ bytes,
    (Fetch.attempt w c.settings (c.base.map Path.ofString) (d.url.getD "") n).1 = .ok (.ok bytes) →
    Fetch.accepts d.integrity (Text.encode (Text.decodeLossy bytes)) →
    Fetch.accepts d.integrity bytes

end Call

/-- A bundle without the number of cached libraries. -/
def Bundle.uncounted (b : Bundle) : Bundle := { b with stats := { b.stats with cacheEntries := 0 } }

namespace Call

open Fetch

/-- Whether calls that share a cache, empty at first, give what they give without a cache. -/
def Transparent (w : Workspace) (n : Web.Network) (calls : List Call) : Prop :=
  (resolveEach w calls ⟨n, .empty true⟩).map (Except.map Bundle.uncounted) =
    (calls.map fun c => (c.resolve w ⟨n, .empty false⟩).1).map (Except.map Bundle.uncounted)

variable {w : Workspace} {n : Web.Network} {c : Call} {timed : Prop}

/-- The bundle that a call gives where every attempt brings the same. -/
def steadyBundle (w : Workspace) (n : Web.Network) (c : Call) : Except Breakdown Bundle :=
  let ordered := Declaration.byPriority c.declarations
  let base := c.base.map Path.ofString
  ((ordered.mapM (keyed w base)).bind fun _ =>
    (ordered.mapM (steadyOutcome w c.settings base n)).bind fun _ =>
      ordered.mapM (lastingOutcome w c.settings base n)).map fun os =>
        (Bundle.ofOutcomes c.minify (.empty false) (ordered.zip os)).uncounted

theorem grounded (hw : w.home.Normal) (c : Call) : Grounded w (c.base.map Path.ofString) where
  home := hw
  base := by
    intro b hb
    obtain ⟨s, -, rfl⟩ := Option.map_eq_some_iff.mp hb
    exact Path.normal_ofString s

theorem stocked_empty (enabled : Bool) : Stocked w n timed (.empty enabled) := nofun

/-- A call on a stocked cache gives the bundle of one attempt at each library. -/
theorem resolve_steady {s : State} (hvalid : ∀ d ∈ c.declarations, d.IsValid)
    (hw : w.home.Normal) (hn : n.Steady) (hhonest : c.Honest w n)
    (hs : s.network.replies = n.replies) (hstock : Stocked w n timed s.cache)
    (htime : timed → c.IsTimed) :
    (c.resolve w s).1.map Bundle.uncounted = c.steadyBundle w n := by
  have hperm := (Declaration.isStableSort_byPriority c.declarations).perm
  have hfetch := Download.fetchAll_steady w c.settings (c.base.map Path.ofString)
    (fun d hd => hvalid d (hperm.mem_iff.mp hd)) hn hs fun d hd hk key content hkey hcached =>
      Download.steadyOutcome_of_stocked (hvalid d (hperm.mem_iff.mp hd)) hk (grounded hw c) hstock
        htime (hhonest d (hperm.mem_iff.mp hd) hk) hkey hcached
  simp only [resolve, Bundle.resolve, steadyBundle]
  rw [hfetch]
  -- the bundles are the same but for the number of cached libraries
  cases (Declaration.byPriority c.declarations).mapM (keyed w (c.base.map Path.ofString)) with
  | error e => rfl
  | ok us =>
    simp only [Except.bind]
    cases (Declaration.byPriority c.declarations).mapM
      (steadyOutcome w c.settings (c.base.map Path.ofString) n) with
    | error e => rfl
    | ok asked =>
      simp only
      cases (Declaration.byPriority c.declarations).mapM
        (lastingOutcome w c.settings (c.base.map Path.ofString) n) with
      | error e => rfl
      | ok os => rfl

/-- Calls on a stocked cache give what each of them gives by itself. -/
theorem resolveEach_steady (hw : w.home.Normal) (hn : n.Steady) {calls : List Call} {s : State}
    (hvalid : ∀ c ∈ calls, ∀ d ∈ c.declarations, d.IsValid)
    (hhonest : ∀ c ∈ calls, c.Honest w n)
    (hpairs : calls.Pairwise fun c later => c.IsTimed → later.IsTimed)
    (htime : timed → ∀ c ∈ calls, c.IsTimed)
    (hs : s.network.replies = n.replies) (hstock : Stocked w n timed s.cache) :
    (resolveEach w calls s).map (Except.map Bundle.uncounted) =
      calls.map (steadyBundle w n) := by
  induction calls generalizing s timed with
  | nil => rfl
  | cons c rest ih =>
    obtain ⟨hc, hrest⟩ := List.forall_mem_cons.mp hvalid
    obtain ⟨hfirst, hlater⟩ := List.pairwise_cons.mp hpairs
    have hhead := resolve_steady hc hw hn (hhonest c List.mem_cons_self) hs hstock
      fun ht => htime ht c List.mem_cons_self
    -- What the cache holds after the call came from earlier calls or from this one.
    have hstock' : Stocked w n (timed ∨ c.IsTimed) s.cache := hstock.mono Or.inl
    obtain ⟨hs'', hstock''⟩ := Download.stocked_fetchAll (Declaration.byPriority c.declarations)
      (grounded hw c) hn Or.inr hs hstock'
    have htime' : timed ∨ c.IsTimed → ∀ later ∈ rest, later.IsTimed := by
      rintro (ht | hcall) later hl
      · exact htime ht later (List.mem_cons_of_mem c hl)
      · exact hfirst later hl hcall
    have htail := ih (s := (c.resolve w s).2) hrest
      (fun later hl => hhonest later (List.mem_cons_of_mem c hl)) hlater htime' hs'' hstock''
    rw [resolveEach, List.map_cons, List.map_cons, hhead, htail]

/-- A cache shared by calls makes no difference to their bundles on a steady network, where no text
has a digest asked for that its bytes have not, and no call without time follows one with time. -/
theorem transparent_of_honest (hw : w.home.Normal) (hn : n.Steady) {calls : List Call}
    (hvalid : ∀ c ∈ calls, ∀ d ∈ c.declarations, d.IsValid)
    (hhonest : ∀ c ∈ calls, c.Honest w n)
    (hpairs : calls.Pairwise fun c later => c.IsTimed → later.IsTimed) :
    Transparent w n calls := by
  have hnothing (enabled : Bool) : Stocked w n False (.empty enabled) := stocked_empty enabled
  rw [Transparent, resolveEach_steady hw hn hvalid hhonest hpairs nofun rfl (hnothing true),
    List.map_map]
  refine List.map_congr_left fun c hc => ?_
  exact (resolve_steady (hvalid c hc) hw hn (hhonest c hc) rfl (hnothing false) nofun).symm

/-- Where bodies are encoded texts, no text has a digest that its body has not. -/
theorem honest_of_texts
    (h : ∀ d ∈ c.declarations, d.kind = .bundled → ∀ bytes,
      (attempt w c.settings (c.base.map Path.ofString) (d.url.getD "") n).1 = .ok (.ok bytes) →
      ∃ text, bytes = Text.encode text) : c.Honest w n := by
  intro d hd hk bytes hbytes haccepts
  obtain ⟨text, rfl⟩ := h d hd hk bytes hbytes
  rwa [Text.decodeLossy_encode] at haccepts

/-- A body that is a text, and one that is none. -/
def clear : Web.Network := ⟨[("https://a.example/x.js", [.response 200 [] [118, 49]])], [], []⟩

def garbled : Web.Network := ⟨[("https://a.example/x.js", [.response 200 [] [0xff]])], [], []⟩

def lone (integrity : Option String) : Declaration :=
  ⟨"x", .bundled, some "https://a.example/x.js", none, integrity, 50, false, false, false, false, none,
    none, .script, none, none⟩

def blank : Workspace := ⟨⟨[]⟩, ⟨"/", []⟩, ⟨"/", []⟩, ⟨"/", []⟩⟩

/-- A call for one library. -/
def single (seconds : Float) (d : Declaration) : Call :=
  ⟨⟨seconds, 1, 1, 8, 4, true, "page", "https://cdn.example/", "", "default", "info", "/", false⟩,
    none, false, [d]⟩

def unchecked : Call := single 20 (lone none)

/-- The library with the digest of the text `v1`. -/
def checkedClear : Call :=
  single 20 (lone (some "sha256-O/wmlZTvZJIo6adLqwDwQu/JHVrMb77jGjgugNQjiP4="))

theorem isValid_lone {integrity : Option String}
    (h : ∀ value, integrity = some value → Declaration.isIntegrity value) :
    (lone integrity).IsValid where
  complete := by
    have hnone : (lone none).complaint? = none := by decide
    exact hnone
  priority := rfl
  integrity := h

theorem isTimed_twenty (d : Declaration) : (single 20 d).IsTimed := by
  change ¬(20 : Float) ≤ 0
  decide

theorem attempt_clear (d : Declaration) :
    (attempt blank (single 20 d).settings none "https://a.example/x.js" clear).1 =
      .ok (.ok [118, 49]) := by
  have htime : ¬(single 20 d).settings.fetchTimeout ≤ 0 := isTimed_twenty d
  rw [attempt, if_neg htime, if_pos (by decide)]
  rfl

theorem honest_clear (integrity : Option String) :
    (single 20 (lone integrity)).Honest blank clear := by
  refine honest_of_texts fun d hd _ bytes hbytes => ⟨"v1", ?_⟩
  obtain rfl := List.mem_singleton.mp hd
  have hbody := (attempt_clear (lone integrity)).symm.trans hbytes
  cases hbody
  decide

theorem transparent_of_honest_clear :
    blank.home.Normal ∧ clear.Steady ∧ Transparent blank clear [unchecked, checkedClear] := by
  have hhome : blank.home.Normal := Path.normal_ofString "/"
  have hsteady : clear.Steady := Web.Network.steady_of_single (by decide)
  refine ⟨hhome, hsteady, transparent_of_honest hhome hsteady ?_ ?_ ?_⟩
  · intro c hc d hd
    simp only [List.mem_cons, List.not_mem_nil, or_false] at hc
    rcases hc with rfl | rfl
    · obtain rfl := List.mem_singleton.mp hd
      exact isValid_lone nofun
    · obtain rfl := List.mem_singleton.mp hd
      exact isValid_lone fun value hvalue => by cases hvalue; decide
  · intro c hc
    simp only [List.mem_cons, List.not_mem_nil, or_false] at hc
    rcases hc with rfl | rfl
    · exact honest_clear none
    · exact honest_clear _
  · exact List.pairwise_pair.mpr fun _ => isTimed_twenty _

/-- The names of the libraries that calls dropped. -/
def droppedEach (rs : List (Except Breakdown Bundle)) : List (List String) :=
  rs.map fun
    | .ok b => b.dropped
    | .error _ => []

theorem not_transparent_of_dropped {w : Workspace} {n : Web.Network} {calls : List Call}
    (h : droppedEach (resolveEach w calls ⟨n, .empty true⟩) ≠
      droppedEach (calls.map fun c => (c.resolve w ⟨n, .empty false⟩).1)) :
    ¬Transparent w n calls := by
  have hdropped (rs : List (Except Breakdown Bundle)) :
      droppedEach (rs.map (Except.map Bundle.uncounted)) = droppedEach rs := by
    rw [droppedEach, List.map_map]
    refine List.map_congr_left fun r _ => ?_
    cases r <;> rfl
  intro hsame
  have hnames := congrArg droppedEach hsame
  rw [hdropped, hdropped] at hnames
  exact h hnames

theorem resolve_single (seconds : Float) (d : Declaration) (s : State) :
    (single seconds d).resolve w s =
      (let (outcomes, s) := Download.fetchAll w (single seconds d).settings none [d] s
      (outcomes.map fun os => Bundle.ofOutcomes false s.cache ([d].zip os), s)) := by
  simp only [resolve, Bundle.resolve, single, Declaration.byPriority, List.mergeSort_singleton]
  rfl

/-- The library with the digest of the character that stands in for bytes that are no text. -/
def checkedGarbled : Call :=
  single 20 (lone (some "sha256-g9VEzMIjwFfSv4DT8qMpgsMsPA244mdIINpQZHg/sJc="))

def timeless : Call := single 0 (lone none)

/-- Cached content passes for a body with the digest of its text, and comes when there is no time. -/
theorem not_transparent_garbled :
    blank.home.Normal ∧ garbled.Steady ∧
      (∀ c ∈ [unchecked, checkedGarbled, timeless], ∀ d ∈ c.declarations, d.IsValid) ∧
      ¬Transparent blank garbled [unchecked, checkedGarbled] ∧
      ¬Transparent blank garbled [unchecked, timeless] := by
  refine ⟨Path.normal_ofString "/", Web.Network.steady_of_single (by decide), ?_, ?_, ?_⟩
  · intro c hc d hd
    simp only [List.mem_cons, List.not_mem_nil, or_false] at hc
    rcases hc with rfl | rfl | rfl
    · obtain rfl := List.mem_singleton.mp hd
      exact isValid_lone nofun
    · obtain rfl := List.mem_singleton.mp hd
      exact isValid_lone fun value hvalue => by cases hvalue; decide
    · obtain rfl := List.mem_singleton.mp hd
      exact isValid_lone nofun
  · refine not_transparent_of_dropped ?_
    simp only [resolveEach, unchecked, checkedGarbled, List.map_cons, List.map_nil, resolve_single]
    decide +kernel
  · refine not_transparent_of_dropped ?_
    simp only [resolveEach, unchecked, timeless, List.map_cons, List.map_nil, resolve_single]
    decide +kernel

end Call
end Storybind
