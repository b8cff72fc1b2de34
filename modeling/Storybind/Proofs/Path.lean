import Mathlib.Tactic
import Storybind.Lookup
import Storybind.Proofs.Text.Pieces

/-!
A path that was read is what its text reads as, so a text stands for one path only; and it is no
address of the web.
-/

namespace Storybind.Path

/-- A path as reading gives it. -/
structure Normal (p : Path) : Prop where
  anchor : p.anchor = "" ∨ p.anchor = "/" ∨ p.anchor = "//"
  names : ∀ n ∈ p.names, n ≠ "" ∧ n ≠ "." ∧ '/' ∉ n.toList

theorem normal_ofString (s : String) : (ofString s).Normal where
  anchor := by
    simp only [ofString]
    split
    · exact Or.inl rfl
    · split
      · exact Or.inr (Or.inr rfl)
      · exact Or.inr (Or.inl rfl)
  names := by
    intro n hn
    obtain ⟨hsplit, hkept⟩ := List.mem_filter.mp hn
    obtain ⟨cs, hcs, rfl⟩ := List.mem_map.mp hsplit
    simp only [Bool.and_eq_true, decide_eq_true_eq] at hkept
    refine ⟨hkept.1, hkept.2, ?_⟩
    rw [String.toList_ofList]
    exact Text.not_mem_of_mem_splitChars hcs

theorem Normal.append {p q : Path} (hp : p.Normal) (hq : q.Normal) : (p ++ q).Normal := by
  change (Path.append p q).Normal
  unfold Path.append
  split
  · exact hq
  · refine ⟨hp.anchor, fun n hn => ?_⟩
    rcases List.mem_append.mp hn with hn | hn
    · exact hp.names n hn
    · exact hq.names n hn

variable {p : Path} {names : List String}

/-- The names of a text, those left out that are empty or a point. -/
def namesOf (s : String) : List String := (Text.split '/' s).filter fun n => n ≠ "" && n ≠ "."

theorem namesOf_slash (s : String) : namesOf ("/" ++ s) = namesOf s := by
  simp [namesOf, Text.split, Text.splitChars]

theorem namesOf_join (h : ∀ n ∈ names, n ≠ "" ∧ n ≠ "." ∧ '/' ∉ n.toList) :
    namesOf (Text.join "/" names) = names := by
  cases names with
  | nil => decide
  | cons n rest =>
    have hsplit : Text.split '/' (Text.join "/" (n :: rest)) = n :: rest :=
      Text.split_join (List.cons_ne_nil n rest) fun m hm => (h m hm).2.2
    rw [namesOf, hsplit, List.filter_eq_self]
    intro m hm
    simpa using ⟨(h m hm).1, (h m hm).2.1⟩

theorem takeWhile_join (h : ∀ n ∈ names, n ≠ "" ∧ n ≠ "." ∧ '/' ∉ n.toList) :
    (Text.join "/" names).toList.takeWhile (· = '/') = [] := by
  cases names with
  | nil => rfl
  | cons n rest =>
    -- the first name is not empty and has no slash
    obtain ⟨hne, -, hslash⟩ := h n List.mem_cons_self
    have hhead : ∃ tail, (Text.join "/" (n :: rest)).toList = n.toList ++ tail := by
      cases rest with
      | nil => exact ⟨[], by rw [Text.join, String.intercalate_singleton, List.append_nil]⟩
      | cons m rest =>
        refine ⟨"/".toList ++ (Text.join "/" (m :: rest)).toList, ?_⟩
        rw [Text.join, String.intercalate_cons_cons, String.toList_append, String.toList_append,
          List.append_assoc]
        rfl
    obtain ⟨tail, htail⟩ := hhead
    rw [htail]
    cases hn : n.toList with
    | nil => exact absurd (String.toList_eq_nil_iff.mp hn) hne
    | cons c cs =>
      have hc : ¬c = '/' := fun hc => hslash (by rw [hn, hc]; exact List.mem_cons_self)
      rw [List.cons_append, List.takeWhile_cons_of_neg (by simpa using hc)]

theorem eq_slash_of_mem : ∀ c ∈ "/".toList, decide (c = '/') = true := by
  intro c hc
  have hslash : c = '/' := by simpa using hc
  exact decide_eq_true hslash

/-- The text of a path that was read reads as that path. -/
theorem ofString_toText (h : p.Normal) : ofString p.toText = p := by
  obtain ⟨anchor, names⟩ := p
  have hnames := namesOf_join h.names
  have hslashes := takeWhile_join h.names
  have hread (s : String) : ofString s =
      ⟨if (s.toList.takeWhile (· = '/')).length = 0 then ""
        else if (s.toList.takeWhile (· = '/')).length = 2 then "//" else "/", namesOf s⟩ := rfl
  simp only at hnames hslashes
  -- the anchor is what is read off the slashes at the head
  rcases h.anchor with rfl | rfl | rfl
  · cases hempty : names.isEmpty with
    | true =>
      obtain rfl := List.isEmpty_iff.mp hempty
      decide
    | false =>
      have htext : toText ⟨"", names⟩ = Text.join "/" names := by simp [toText, hempty]
      rw [htext, hread, hslashes, hnames]
      rfl
  · have htext : toText ⟨"/", names⟩ = "/" ++ Text.join "/" names := by simp [toText]
    have hcount : (("/" ++ Text.join "/" names).toList.takeWhile (· = '/')) = ['/'] := by
      rw [String.toList_append, List.takeWhile_append_of_pos eq_slash_of_mem, hslashes]
      rfl
    rw [htext, hread, hcount, namesOf_slash, hnames]
    rfl
  · have htext : toText ⟨"//", names⟩ = "/" ++ ("/" ++ Text.join "/" names) := by
      simp [toText, ← String.append_assoc]
    have hcount : (("/" ++ ("/" ++ Text.join "/" names)).toList.takeWhile (· = '/')) =
        ['/', '/'] := by
      rw [String.toList_append, String.toList_append,
        List.takeWhile_append_of_pos eq_slash_of_mem,
        List.takeWhile_append_of_pos eq_slash_of_mem, hslashes]
      rfl
    rw [htext, hread, hcount, namesOf_slash, namesOf_slash, hnames]
    rfl

/-- Two paths that were read and have one text are one path. -/
theorem toText_injective {q : Path} (hp : p.Normal) (hq : q.Normal) (h : p.toText = q.toText) :
    p = q := by
  rw [← ofString_toText hp, h, ofString_toText hq]

/-- Whether a path holds a character in one of its names. -/
def Holds (c : Char) (p : Path) : Prop := ∃ n ∈ p.names, c ∈ n.toList

theorem mem_toText {c : Char} (h : p.Normal) (hslash : c ≠ '/') (hpoint : c ≠ '.') :
    c ∈ p.toText.toList ↔ p.Holds c := by
  have hanchor : c ∉ p.anchor.toList := by
    rcases h.anchor with h | h | h <;> simp [h, hslash]
  unfold toText Holds
  split
  · next hempty =>
    simp only [Bool.and_eq_true, decide_eq_true_eq, List.isEmpty_iff] at hempty
    simp [hempty.2, hpoint]
  · rw [String.toList_append, List.mem_append, or_iff_right hanchor, Text.mem_join hslash]

/-- No text of a path that was read has two slashes after a name. -/
theorem toText_ne {scheme rest : List Char} (h : p.Normal) (hne : scheme ≠ [])
    (hslash : '/' ∉ scheme) : p.toText.toList ≠ scheme ++ '/' :: '/' :: rest := by
  intro htext
  obtain ⟨c, cs, rfl⟩ := List.exists_cons_of_ne_nil hne
  have hc : c ≠ '/' := fun hc => hslash (hc ▸ List.mem_cons_self)
  obtain ⟨anchor, names⟩ := p
  rcases h.anchor with rfl | rfl | rfl
  · cases hempty : names.isEmpty with
    | true =>
      obtain rfl := List.isEmpty_iff.mp hempty
      have hlength := congrArg List.length htext
      simp [toText] at hlength
    | false =>
      have hjoin : toText ⟨"", names⟩ = Text.join "/" names := by simp [toText, hempty]
      have hnames : names ≠ [] := fun hn => by simp [hn] at hempty
      have hsplit : Text.split '/' (Text.join "/" names) = names :=
        Text.split_join hnames fun m hm => (h.names m hm).2.2
      rw [← hjoin, Text.split, htext, Text.splitChars_append _ hslash, Text.splitChars, if_pos rfl]
        at hsplit
      -- between the two slashes an empty name would be split off
      have hmem : "" ∈ names := by
        rw [← hsplit]
        simp
      exact (h.names "" hmem).1 rfl
  · have hstart : toText ⟨"/", names⟩ = "/" ++ Text.join "/" names := by simp [toText]
    rw [hstart, String.toList_append] at htext
    exact hc (List.cons.inj htext).1.symm
  · have hstart : toText ⟨"//", names⟩ = "//" ++ Text.join "/" names := by simp [toText]
    rw [hstart, String.toList_append] at htext
    exact hc (List.cons.inj htext).1.symm

/-- The text of a path that was read is no address of the web. -/
theorem isWebAddress_toText (h : p.Normal) : isWebAddress p.toText = false := by
  have hscheme (scheme : List Char) (hne : scheme ≠ []) (hslash : '/' ∉ scheme) :
      (Text.after? (scheme ++ ['/', '/']) p.toText.toList).isSome = false := by
    rw [Option.isSome_eq_false_iff, Option.isNone_iff_eq_none, ← Option.not_isSome_iff_eq_none,
      Option.isSome_iff_exists]
    rintro ⟨rest, hrest⟩
    rw [Text.after?_eq_some, List.append_assoc] at hrest
    exact toText_ne h hne hslash hrest
  rw [isWebAddress, Text.startsWith, Text.startsWith, Bool.or_eq_false_iff]
  exact ⟨hscheme "http:".toList (by decide) (by decide),
    hscheme "https:".toList (by decide) (by decide)⟩

end Storybind.Path
