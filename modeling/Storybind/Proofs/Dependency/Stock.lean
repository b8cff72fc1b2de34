import Mathlib.Tactic
import Storybind.Proofs.Dependency.Cache
import Storybind.Proofs.Dependency.Steady
import Storybind.Proofs.Path

/-!
What a cache holds after libraries were fetched on a steady network: the text of what is at each
location.
-/

namespace Storybind

namespace Fetch

variable {w : Workspace} {settings : Settings} {base : Option Path} {n : Web.Network}
  {location key : String}

/-- Whether bytes are what is at the location that a key stands for. -/
def Holds (w : Workspace) (n : Web.Network) (key : String) (bytes : Bytes) : Prop :=
  if isWebAddress key then (Web.fetch key n).1 = .ok bytes
  else w.read (Path.ofString key) = .ok bytes

/-- Paths that come from texts, as they do where a program is told its home and its base. -/
structure Grounded (w : Workspace) (base : Option Path) : Prop where
  home : w.home.Normal
  base : ∀ b, base = some b → b.Normal

theorem normal_expandHome {p q : Path} (hw : w.home.Normal) (hp : p.Normal)
    (h : w.expandHome? p = some q) : q.Normal := by
  unfold Workspace.expandHome? at h
  split at h
  · obtain rfl := Option.some.inj h
    exact hp
  · split at h
    · obtain rfl := Option.some.inj h
      exact hp
    · next name rest hnames =>
      split at h
      · obtain rfl := Option.some.inj h
        refine ⟨hw.anchor, fun m hm => ?_⟩
        rcases List.mem_append.mp hm with hm | hm
        · exact hw.names m hm
        · exact hp.names m (by rw [hnames]; exact List.mem_cons_of_mem name hm)
      · split at h
        · cases h
        · obtain rfl := Option.some.inj h
          exact hp

theorem normal_localPath {p : Path} (hw : Grounded w base) (h : localPath w base location = .ok p) :
    p.Normal := by
  unfold localPath at h
  split at h
  · split at h
    · cases h
    · obtain rfl := Except.ok.inj h
      exact Path.normal_ofString _
  · split at h
    · cases h
    · next q hq =>
      have hnormal := normal_expandHome hw.home (Path.normal_ofString location) hq
      split at h
      · next b =>
        obtain rfl := Except.ok.inj h
        exact (hw.base b rfl).append hnormal
      · obtain rfl := Except.ok.inj h
        exact hnormal

theorem ofRequest_eq_ok {answer : Except Web.RequestError Bytes} {bytes : Bytes} :
    ofRequest settings answer = .ok (.ok bytes) ↔ answer = .ok bytes := by
  unfold ofRequest
  split
  · simp
  · simp
  · split <;> simp

theorem ofFile_eq_ok {p : Path} {bytes : Bytes} (hp : localPath w base location = .ok p) :
    ofFile w base location = .ok (.ok bytes) ↔ w.read p = .ok bytes := by
  rw [ofFile, hp]
  simp only [bind, Except.bind]
  cases w.read p with
  | ok body => simp [pure, Except.pure]
  | error e =>
    by_cases hs : e.isSystem
    · simp [hs, pure, Except.pure]
    · simp [hs, throw, throwThe, MonadExceptOf.throw]

/-- An attempt that is given time brings what the key of its location stands for. -/
theorem attempt_eq_ok {bytes : Bytes} (hw : Grounded w base)
    (hkey : cacheKey w base location = .ok key) :
    (attempt w settings base location n).1 = .ok (.ok bytes) ↔
      ¬settings.fetchTimeout ≤ 0 ∧ Holds w n key bytes := by
  by_cases htime : settings.fetchTimeout ≤ 0
  · simp [attempt, htime]
  rw [and_iff_right htime, attempt, if_neg htime]
  unfold cacheKey at hkey
  -- the key of an address is the address, that of a file is the text of its path
  by_cases hweb : isWebAddress location
  · rw [if_pos hweb] at hkey
    obtain rfl := Except.ok.inj hkey
    rw [Holds, if_pos hweb, if_pos hweb]
    exact ofRequest_eq_ok
  · rw [if_neg hweb] at hkey
    cases hp : localPath w base location with
    | error e =>
      rw [hp] at hkey
      cases hkey
    | ok p =>
      rw [hp] at hkey
      obtain rfl : p.toText = key := Except.ok.inj hkey
      have hnormal := normal_localPath hw hp
      have hfile : ¬isWebAddress p.toText := by
        rw [Path.isWebAddress_toText hnormal]
        exact Bool.false_ne_true
      rw [Holds, if_neg hweb, if_neg hfile, Path.ofString_toText hnormal]
      exact ofFile_eq_ok hp

/-- A cache that holds only texts of what is at their locations, and nothing unless there was time for
an attempt. -/
def Stocked (w : Workspace) (n : Web.Network) (timed : Prop) (cache : Cache) : Prop :=
  ∀ key content, cache.entries.lookup key = some content →
    timed ∧ ∃ bytes, Holds w n key bytes ∧ Text.decodeLossy bytes = content

theorem Stocked.mono {timed timed' : Prop} {cache : Cache} (h : Stocked w n timed cache)
    (ht : timed → timed') : Stocked w n timed' cache :=
  fun key content hl => (h key content hl).imp ht id

theorem Stocked.put {timed : Prop} {cache : Cache} {bytes : Bytes} (h : Stocked w n timed cache)
    (ht : timed) (hbytes : Holds w n key bytes) :
    Stocked w n timed (cache.put key (Text.decodeLossy bytes)) := by
  intro l content hl
  rw [Cache.lookup_put] at hl
  split at hl
  · next hput =>
    obtain rfl := hput.2
    obtain rfl := Option.some.inj hl
    exact ⟨ht, bytes, hbytes, rfl⟩
  · exact h l content hl

/-- Taking in what an attempt gave caches the text of what it brought, or nothing. -/
theorem takeIn_cache (d : Declaration) (key : String)
    (answer : Except Breakdown (Except Fault Bytes)) (s : State) :
    (takeIn d key answer s).2.cache = s.cache ∨
      ∃ bytes, answer = .ok (.ok bytes) ∧
        (takeIn d key answer s).2.cache = s.cache.put key (Text.decodeLossy bytes) := by
  unfold takeIn
  split
  · exact Or.inl rfl
  · exact Or.inl rfl
  · next bytes =>
    cases hpasses : passes d.integrity bytes with
    | error e =>
      refine Or.inl ?_
      rw [checked, hpasses]
      rfl
    | ok ok =>
      rw [checked, hpasses]
      cases ok with
      | true => exact Or.inr ⟨bytes, rfl, rfl⟩
      | false => exact Or.inl rfl

end Fetch

namespace Download

open Fetch

variable {w : Workspace} {settings : Settings} {base : Option Path} {n : Web.Network}
  {d : Declaration} {timed : Prop}

/-- A download whose key is that of its library. -/
inductive Labelled (w : Workspace) (base : Option Path) (d : Declaration) : Download → Prop
  | idle : Labelled w base d .idle
  | arrived (content : String) : Labelled w base d (.arrived content)
  | broken (e : Breakdown) : Labelled w base d (.broken e)
  | waiting {key : String} (h : cacheKey w base (d.url.getD "") = .ok key) (attempts : Nat)
      (complaint : String) : Labelled w base d (.waiting d key attempts complaint)

theorem labelled_start (cache : Cache) (d : Declaration) :
    Labelled w base d (start w base cache d) := by
  unfold start
  split
  · split
    · exact Labelled.broken _
    · next key hkey =>
      split
      · exact Labelled.broken _
      · exact Labelled.arrived _
      · exact Labelled.waiting hkey _ _
  · exact Labelled.idle

theorem labelled_goOn {key : String} (hkey : cacheKey w base (d.url.getD "") = .ok key)
    (number : Nat) (answer : Except Breakdown (Except Fault Bytes)) (s : State) :
    Labelled w base d (goOn settings d key number answer s).1 := by
  rcases goOn_cases settings d key number answer s with
    ⟨e, hbroken⟩ | ⟨content, -, harrived⟩ | ⟨complaint, hwaiting⟩
  · rw [hbroken]
    exact Labelled.broken e
  · rw [harrived]
    exact Labelled.arrived content
  · rw [hwaiting]
    exact Labelled.waiting hkey number complaint

/-- An attempt keeps a cache stocked. -/
theorem stocked_advance {x : Download} {s : State} (hw : Grounded w base) (hn : n.Steady)
    (htime : ¬settings.fetchTimeout ≤ 0 → timed) (hx : Labelled w base d x)
    (hs : s.network.replies = n.replies ∧ Stocked w n timed s.cache) :
    Labelled w base d (advance w settings base x s).1 ∧
      (advance w settings base x s).2.network.replies = n.replies ∧
      Stocked w n timed (advance w settings base x s).2.cache := by
  cases hx with
  | idle => exact ⟨Labelled.idle, hs⟩
  | arrived content => exact ⟨Labelled.arrived content, hs⟩
  | broken e => exact ⟨Labelled.broken e, hs⟩
  | @waiting key hkey attempts complaint =>
    simp only [advance]
    split
    · simp only [attempt]
      refine ⟨labelled_goOn hkey _ _ _,
        (goOn_replies _ _ _ _).trans ((attempt_replies _).trans hs.1), ?_⟩
      rw [goOn_cache_eq_takeIn, attempt_steady hn hs.1]
      -- what is put into the cache is the text of what the location holds
      rcases takeIn_cache d key (Fetch.attempt w settings base (d.url.getD "") n).1
        ⟨(Fetch.attempt w settings base (d.url.getD "") s.network).2, s.cache⟩
        with hcache | ⟨bytes, hanswer, hcache⟩
      · rw [hcache]
        exact hs.2
      · rw [hcache]
        obtain ⟨htimed, hbytes⟩ := (attempt_eq_ok hw hkey).mp hanswer
        exact hs.2.put (htime htimed) hbytes
    · exact ⟨Labelled.waiting hkey attempts complaint, hs⟩

/-- Fetching keeps a cache stocked, and the replies of the network. -/
theorem stocked_fetchAll (ds : List Declaration) {s : State} (hw : Grounded w base) (hn : n.Steady)
    (htime : ¬settings.fetchTimeout ≤ 0 → timed) (hs : s.network.replies = n.replies)
    (hstock : Stocked w n timed s.cache) :
    (fetchAll w settings base ds s).2.network.replies = n.replies ∧
      Stocked w n timed (fetchAll w settings base ds s).2.cache := by
  have hstart : List.Forall₂ (Labelled w base) ds (ds.map (start w base s.cache)) := by
    rw [List.forall₂_map_right_iff, List.forall₂_same]
    exact fun d _ => labelled_start s.cache d
  let I := fun s : State => s.network.replies = n.replies ∧ Stocked w n timed s.cache
  have hstep : ∀ d x s, Labelled w base d x → I s →
      Labelled w base d (advance w settings base x s).1 ∧ I (advance w settings base x s).2 :=
    fun d x s hx hs => stocked_advance hw hn htime hx hs
  exact (rounds_forall₂ hstep (maxAttempts settings) hstart ⟨hs, hstock⟩).2

/-- What a stocked cache holds for a library is what an attempt at it brings, where there is time for
one and no text has a digest asked for that its bytes have not. -/
theorem steadyOutcome_of_stocked {cache : Cache} {key content : String} (hd : d.IsValid)
    (hk : d.kind = .bundled) (hw : Grounded w base) (hstock : Stocked w n timed cache)
    (htime : timed → ¬settings.fetchTimeout ≤ 0)
    (hdigest : ∀ bytes, (Fetch.attempt w settings base (d.url.getD "") n).1 = .ok (.ok bytes) →
      accepts d.integrity (Text.encode (Text.decodeLossy bytes)) → accepts d.integrity bytes)
    (hkey : cacheKey w base (d.url.getD "") = .ok key)
    (hcached : cached? d key cache = .ok (some content)) :
    steadyOutcome w settings base n d = .ok (.content content) := by
  rw [cached?_eq hd] at hcached
  obtain ⟨hget, haccepts⟩ := Option.filter_eq_some_iff.mp (Except.ok.inj hcached)
  have hlookup : cache.entries.lookup key = some content := by
    unfold Cache.get? at hget
    split at hget
    · exact hget
    · cases hget
  obtain ⟨htimed, bytes, hbytes, rfl⟩ := hstock key content hlookup
  have hattempt := (attempt_eq_ok hw hkey).mpr ⟨htime htimed, hbytes⟩
  -- the text passed the check, so the bytes do
  have hjudged : judged d.integrity (.ok bytes) = .ok (Text.decodeLossy bytes) := by
    rw [judged, if_pos (hdigest bytes hattempt haccepts)]
  rw [steadyOutcome, if_pos hk, hattempt]
  simp only [hjudged]

end Download
end Storybind
