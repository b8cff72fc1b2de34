import Mathlib
import Storybind.Player.Stock.Document
import Storybind.Proofs.Distinct
import Storybind.Proofs.Page.Template
import Storybind.Proofs.Text.Replace

/-!
The seams of a filled template. Two opening braces side by side could come out of one content, or out of
the end of one piece and the start of the next. Where the slots stand apart and no content holds two
braces neither can be, so filling leaves no slot.
-/

namespace Storybind.Page.Template

open Distinct (mem_of_lookup)
open Text (HasPair hasPair_append_iff hasPair_cons not_hasPair_of_not_mem)

variable {s t name : List Char} {p : Piece} {ps : List Piece} {content : List Char → List Char}

/-! ### Reading a template piece by piece -/

/-- Reads the pieces of a template, `skip` characters of the last slot being still to pass over. -/
def piecesFrom : Nat → List Char → List Piece
  | _, [] => []
  | skip + 1, _ :: cs => piecesFrom skip cs
  | 0, c :: cs =>
    match slot? (c :: cs) with
    | some name => .slot name :: piecesFrom (name.length + 3) cs
    | none => .char c :: piecesFrom 0 cs

/-- The pieces of a template. -/
def pieces (t : List Char) : List Piece := piecesFrom 0 t

theorem piecesFrom_skip (s r : List Char) : piecesFrom s.length (s ++ r) = piecesFrom 0 r := by
  induction s with
  | nil => rfl
  | cons c cs ih => exact ih

theorem pieces_of_scans (h : Scans t ps) : pieces t = ps := by
  unfold pieces
  induction h with
  | nil => rfl
  | @slot name r ps hname _ ih =>
    have htoken : token name ++ r = '\x7b' :: ('\x7b' :: (name ++ ['\x7d', '\x7d']) ++ r) := rfl
    have hlength : ('\x7b' :: (name ++ ['\x7d', '\x7d'])).length = name.length + 3 := by simp
    have hslot : slot? ('\x7b' :: ('\x7b' :: (name ++ ['\x7d', '\x7d']) ++ r)) = some name :=
      slot?_token hname r
    rw [htoken, piecesFrom, hslot]
    simp only
    rw [← hlength, piecesFrom_skip, ih]
  | @char c r ps hno _ ih =>
    have hslot : slot? (c :: r) = none := by
      apply Option.eq_none_iff_forall_ne_some.mpr
      intro name hname
      exact hno name (slot?_eq_some.mp hname)
    rw [piecesFrom, hslot]
    simp only
    rw [ih]

theorem reads_pieces (t : List Char) : Reads t (pieces t) := by
  obtain ⟨ps, hps⟩ := exists_scans t
  rw [pieces_of_scans hps]
  exact reads_of_scans hps

/-! ### Slots that stand apart -/

def Piece.isSlot : Piece → Bool
  | char _ => false
  | slot _ => true

/-- Whether no opening brace stands outside the slots of a template, and a character between any two of
them. -/
structure StandApart (ps : List Piece) : Prop where
  plain : Piece.char '\x7b' ∉ ps
  apart : ps.IsChain fun p q => ¬(p.isSlot = true ∧ q.isSlot = true)

instance (ps : List Piece) : Decidable (StandApart ps) :=
  decidable_of_iff (Piece.char '\x7b' ∉ ps ∧ ps.IsChain fun p q => ¬(p.isSlot = true ∧ q.isSlot = true))
    ⟨fun h => ⟨h.1, h.2⟩, fun h => ⟨h.plain, h.apart⟩⟩

theorem StandApart.tail (h : StandApart (p :: ps)) : StandApart ps :=
  ⟨fun hmem => h.plain (List.mem_cons_of_mem p hmem), h.apart.of_cons⟩

theorem StandApart.char_ne {c : Char} (h : StandApart (.char c :: ps)) : c ≠ '\x7b' := by
  intro hc
  rw [hc] at h
  exact h.plain List.mem_cons_self

/-- What follows a slot does not begin with a brace. -/
theorem StandApart.head?_ne (h : StandApart (.slot name :: ps)) :
    (ps.flatMap (Piece.filled content)).head? ≠ some '\x7b' := by
  cases ps with
  | nil => nofun
  | cons q qs =>
    cases q with
    | char c =>
      intro heq
      exact h.tail.char_ne (Option.some.inj heq)
    | slot other => exact absurd ⟨rfl, rfl⟩ (List.isChain_cons_cons.mp h.apart).1

/-! ### Templates of lines -/

theorem IsName.break_not_mem (h : IsName name) : '\n' ∉ token name := by
  intro hmem
  simp only [token, List.mem_cons, List.mem_append, List.not_mem_nil, or_false] at hmem
  rcases hmem with hmem | hmem | hmem | hmem | hmem
  · exact absurd hmem (by decide)
  · exact absurd hmem (by decide)
  · exact absurd (h.isNameChar _ hmem) (by decide)
  · exact absurd hmem (by decide)
  · exact absurd hmem (by decide)

/-- A slot does not go over the end of a line, so lines can be read one by one. -/
theorem Scans.append_line {l r : List Char} {qs : List Piece} (hl : Scans l ps) (hr : Scans r qs) :
    Scans (l ++ '\n' :: r) (ps ++ .char '\n' :: qs) := by
  induction hl with
  | nil =>
    apply Scans.char _ hr
    rintro name ⟨-, hprefix⟩
    exact absurd (List.cons_prefix_cons.mp hprefix).1 (by decide)
  | @slot name l ps hname _ ih =>
    rw [List.append_assoc]
    exact .slot hname ih
  | @char c l ps hno _ ih =>
    apply Scans.char _ ih
    rintro name ⟨hname, q, hq⟩
    rw [List.drop_zero, ← List.cons_append] at hq
    rcases List.append_eq_append_iff.mp hq with ⟨rest, hin, -⟩ | ⟨rest, htoken, hrest⟩
    · exact hno name ⟨hname, rest, hin.symm⟩
    · -- a slot that goes on behind the line would hold its end
      cases rest with
      | nil => exact hno name ⟨hname, [], by rw [htoken]; simp⟩
      | cons d ds =>
        obtain ⟨rfl, -⟩ := List.cons.inj hrest
        apply absurd hname.break_not_mem
        rw [htoken, not_not]
        exact List.mem_append_right _ List.mem_cons_self

theorem StandApart.append_line {qs : List Piece} (h : StandApart ps) (h' : StandApart qs) :
    StandApart (ps ++ .char '\n' :: qs) := by
  constructor
  · intro hmem
    rcases List.mem_append.mp hmem with hmem | hmem
    · exact h.plain hmem
    · rcases List.mem_cons.mp hmem with heq | hmem
      · exact absurd heq (by decide)
      · exact h'.plain hmem
  · apply h.apart.append
    · apply h'.apart.cons
      rintro q - ⟨hslot, -⟩
      exact absurd hslot (by decide)
    · rintro p - q hq ⟨-, hslot⟩
      rw [List.head?_cons, Option.mem_some_iff] at hq
      rw [← hq] at hslot
      exact absurd hslot (by decide)

/-- Where the slots of every line stand apart, those of all lines do. -/
theorem standApart_join (lines : List String) (h : ∀ line ∈ lines, StandApart (pieces line.toList)) :
    StandApart (pieces (Text.join "\n" lines).toList) := by
  induction lines with
  | nil => exact ⟨List.not_mem_nil, List.isChain_nil⟩
  | cons line lines ih =>
    obtain ⟨hline, hlines⟩ := List.forall_mem_cons.mp h
    cases lines with
    | nil => rwa [Text.join, String.intercalate_singleton]
    | cons next lines =>
      have hscans (t : List Char) : Scans t (pieces t) := scans_of_reads (reads_pieces t)
      have hjoin : (Text.join "\n" (line :: next :: lines)).toList =
          line.toList ++ '\n' :: (Text.join "\n" (next :: lines)).toList := by
        rw [Text.join, String.intercalate_cons_cons]
        simp [Text.join]
      rw [hjoin, pieces_of_scans ((hscans line.toList).append_line (hscans _))]
      exact hline.append_line (ih hlines)

/-! ### Contents and seams -/

/-- The backslash of a guarded script stands behind an angle bracket, and so parts no braces and joins
none. -/
theorem not_hasPair_guardChars (h : ¬HasPair '\x7b' '\x7b' s) : ¬HasPair '\x7b' '\x7b' (guardChars s) := by
  have hhead (s : List Char) : (guardChars s).head? = s.head? := by
    cases s with
    | nil => rfl
    | cons c cs =>
      rw [guardChars]
      split
      · next hclose =>
        rw [Bool.and_eq_true, decide_eq_true_iff] at hclose
        rw [hclose.1]
        rfl
      · rfl
  induction s with
  | nil => exact h
  | cons c cs ih =>
    rw [hasPair_cons, not_or] at h
    have hrest := ih h.2
    rw [guardChars]
    split
    · rw [hasPair_cons, hasPair_cons]
      simpa using hrest
    · rw [hasPair_cons, hhead]
      exact not_or.mpr ⟨h.1, hrest⟩

theorem contains_braces (v : String) :
    Text.contains v "\x7b\x7b" = false ↔ ¬HasPair '\x7b' '\x7b' v.toList := by
  rw [Text.contains, Bool.eq_false_iff, Ne, Text.cutAt?_isSome]
  rfl

theorem not_hasPair_contentOf {values scripts : List (String × String)}
    (hvalues : ∀ v ∈ values, Text.contains v.2 "\x7b\x7b" = false)
    (hscripts : ∀ v ∈ scripts, Text.contains v.2 "\x7b\x7b" = false) (name : List Char) :
    ¬HasPair '\x7b' '\x7b' (contentOf values scripts name) := by
  unfold contentOf
  simp only
  split
  · next v hv => exact (contains_braces v).mp (hvalues _ (mem_of_lookup hv))
  · split
    · next v hv => exact not_hasPair_guardChars ((contains_braces v).mp (hscripts _ (mem_of_lookup hv)))
    · exact not_hasPair_of_not_mem List.not_mem_nil

/-- No pair of braces comes about where pieces meet. -/
theorem not_hasPair_filled (hcontent : ∀ name, ¬HasPair '\x7b' '\x7b' (content name))
    (h : StandApart ps) : ¬HasPair '\x7b' '\x7b' (ps.flatMap (Piece.filled content)) := by
  induction ps with
  | nil => exact not_hasPair_of_not_mem List.not_mem_nil
  | cons p ps ih =>
    have hrest := ih h.tail
    rw [List.flatMap_cons]
    cases p with
    | char c =>
      -- a character outside the slots is no brace, so it begins no pair
      change ¬HasPair '\x7b' '\x7b' (c :: ps.flatMap (Piece.filled content))
      rw [hasPair_cons, not_or]
      exact ⟨fun hpair => h.char_ne hpair.1, hrest⟩
    | slot name =>
      -- a content may end with a brace, but what follows it does not begin with one
      rw [hasPair_append_iff h.head?_ne, not_or]
      exact ⟨hcontent name, hrest⟩

theorem SlotAt.hasPair {i : Nat} (h : SlotAt t i name) : HasPair '\x7b' '\x7b' t := by
  have htoken : ['\x7b', '\x7b'] <+: token name := ⟨name ++ ['\x7d', '\x7d'], rfl⟩
  exact (htoken.trans h.2).isInfix.trans (List.drop_suffix i t).isInfix

/-- Where the slots of a template stand apart, filling it with contents without two braces side by side
leaves no two braces side by side, and so no slot. -/
theorem fill_leaves_no_slot (template : String) (values scripts : List (String × String))
    (hapart : ∀ ps, Reads template.toList ps → StandApart ps)
    (hvalues : ∀ v ∈ values, Text.contains v.2 "\x7b\x7b" = false)
    (hscripts : ∀ v ∈ scripts, Text.contains v.2 "\x7b\x7b" = false) :
    Text.contains (fill template values scripts) "\x7b\x7b" = false ∧
      ∀ i name, ¬SlotAt (fill template values scripts).toList i name := by
  have hreads := reads_pieces template.toList
  have hfill : (fill template values scripts).toList =
      (pieces template.toList).flatMap (Piece.filled (contentOf values scripts)) := by
    rw [fill, String.toList_ofList, fillFrom_scans (scans_of_reads hreads)]
  have hpair : ¬HasPair '\x7b' '\x7b' (fill template values scripts).toList := by
    rw [hfill]
    apply not_hasPair_filled
    · exact not_hasPair_contentOf hvalues hscripts
    · exact hapart _ hreads
  refine ⟨(contains_braces _).mpr hpair, ?_⟩
  intro i name hslot
  exact hpair hslot.hasPair

/-- The built-in template, filled with contents that end with a brace. -/
theorem fill_leaves_no_slot_stock :
    (∀ ps, Reads Player.Stock.template.toList ps → StandApart ps) ∧
    Text.contains "\x7b" "\x7b\x7b" = false ∧ Text.contains "f = () => \x7b" "\x7b\x7b" = false ∧
    ∀ i name, ¬SlotAt (fill Player.Stock.template [("VN_TITLE", "\x7b"), ("META_AUTHOR", "\x7b")]
      [("RUNTIME_SCRIPTS", "f = () => \x7b")]).toList i name := by
  have hlines : ∀ line ∈ Player.Stock.templateLines, StandApart (pieces line.toList) := by decide +kernel
  have hapart (ps : List Piece) (hps : Reads Player.Stock.template.toList ps) : StandApart ps := by
    rw [← pieces_of_scans (scans_of_reads hps)]
    exact standApart_join _ hlines
  have hvalue : Text.contains "\x7b" "\x7b\x7b" = false := by decide
  have hscript : Text.contains "f = () => \x7b" "\x7b\x7b" = false := by decide
  have hfill := fill_leaves_no_slot Player.Stock.template [("VN_TITLE", "\x7b"), ("META_AUTHOR", "\x7b")]
    [("RUNTIME_SCRIPTS", "f = () => \x7b")] hapart (by simpa using hvalue) (by simpa using hscript)
  exact ⟨hapart, hvalue, hscript, hfill.2⟩

end Storybind.Page.Template
