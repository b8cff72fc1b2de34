import Mathlib.Tactic
import Storybind.Proofs.Component.ExportGrammar
import Storybind.Proofs.Text.Trim

/-!
Scripts without their exports. A rule passes over a source once and takes away what it reads at the start of
a line, so a line that starts with an export behind all rules was refused by each of them. Two kinds of exports
escape: one that is indented on the first line, which trimming moves to the start when the rules are done, and
one that goes on behind the end of its line and is pieced together by a later rule.
-/

namespace Storybind.Exports

open Storybind.Directive (Blanks)
open Storybind.Text (StartsLine exists_firstLine exists_lastLine firstLine firstLine_append firstLine_cons
  getElem?_lines isBlank isWord linesOf startsLine_cons trimChars)

variable {rule : List Char → Option (List Char)} {s t u rest before : List Char} {b : Bool}

/-! ### One pass -/

/-- The characters that a line left by a rule does not start with: the first letter of an export, and the
blanks of an indentation. -/
def IsOwn (c : Char) : Prop := c = 'e' ∨ isBlank c = true ∧ c ≠ '\n'

/-- What the rules have in common: they take away a piece that begins with `export`, and no such piece
begins behind it. -/
def Cuts (rule : List Char → Option (List Char)) : Prop := ∀ s rest, rule s = some rest →
  (∃ piece, s = "export".toList ++ (piece ++ rest)) ∧ ∀ c, rest.head? = some c → ¬IsOwn c

/-- What a pass makes of a source, from a position on that starts a line or not. -/
inductive Strips (rule : List Char → Option (List Char)) : Bool → List Char → List Char → Prop where
  | done (b : Bool) : Strips rule b [] []
  | keep {b : Bool} {c : Char} {s t : List Char} (hnone : b = true → rule (c :: s) = none)
      (h : Strips rule (c = '\n') s t) : Strips rule b (c :: s) (c :: t)
  | cut {s rest t : List Char} (hcut : rule s = some rest) (h : Strips rule true rest t) :
      Strips rule true s t

theorem Cuts.head? (hrule : Cuts rule) (h : rule s = some rest) : s.head? = some 'e' := by
  obtain ⟨⟨piece, rfl⟩, -⟩ := hrule s rest h
  rfl

/-- What a rule leaves is refused by it. -/
theorem Cuts.rest_eq_none (hrule : Cuts rule) (h : rule s = some rest) : rule rest = none := by
  cases hrest : rule rest with
  | none => rfl
  | some r => exact absurd (.inl rfl) ((hrule s rest h).2 'e' (hrule.head? hrest))

theorem Cuts.length_lt (hrule : Cuts rule) (h : rule s = some rest) : rest.length < s.length := by
  obtain ⟨⟨piece, rfl⟩, -⟩ := hrule s rest h
  simp only [List.length_append]
  have hword : 0 < "export".toList.length := by decide
  omega

/-- Where nothing is taken away, it does not matter whether a line starts. -/
theorem removeFrom_of_none (h : rule s = none) (b b' : Bool) :
    removeFrom rule b 0 s = removeFrom rule b' 0 s := by
  cases s with
  | nil => simp [removeFrom]
  | cons c cs => cases b <;> cases b' <;> simp [removeFrom, h]

theorem removeFrom_append (piece : List Char) (b : Bool) (s : List Char) :
    ∃ b', removeFrom rule b piece.length (piece ++ s) = removeFrom rule b' 0 s := by
  induction piece generalizing b with
  | nil => exact ⟨b, rfl⟩
  | cons c cs ih =>
    obtain ⟨b', hb'⟩ := ih (c = '\n')
    refine ⟨b', ?_⟩
    rw [List.length_cons, List.cons_append, removeFrom, hb']

theorem strips_removeFrom (hrule : Cuts rule) (b : Bool) (s : List Char) :
    Strips rule b s (removeFrom rule b 0 s) := by
  induction hn : s.length using Nat.strong_induction_on generalizing b s with
  | _ n ih =>
    subst hn
    cases s with
    | nil =>
      rw [removeFrom]
      exact .done b
    | cons c cs =>
      have hrest := ih cs.length (Nat.lt_succ_self _) (c = '\n') cs rfl
      cases b with
      | false =>
        simp only [removeFrom, Bool.false_eq_true, if_false]
        exact .keep nofun hrest
      | true =>
        cases hcut : rule (c :: cs) with
        | none =>
          simp only [removeFrom, if_true, hcut]
          exact .keep (fun _ => hcut) hrest
        | some rest =>
          obtain ⟨⟨piece, hs⟩, -⟩ := hrule _ _ hcut
          obtain ⟨rfl, rfl⟩ := List.cons.inj hs
          simp only [removeFrom, if_true, hcut]
          -- the rest of the piece is passed over
          obtain ⟨b', hb'⟩ := removeFrom_append ("xport".toList ++ piece) ('e' = '\n') rest
          have hskip : ("xport".toList ++ (piece ++ rest)).length - rest.length =
              ("xport".toList ++ piece).length := by
            simp only [List.length_append]
            omega
          have hpass : removeFrom rule ('e' = '\n')
              (("xport".toList ++ (piece ++ rest)).length - rest.length) ("xport".toList ++ (piece ++ rest)) =
                removeFrom rule true 0 rest := by
            rw [hskip, ← List.append_assoc, hb']
            exact removeFrom_of_none (hrule.rest_eq_none hcut) b' true
          refine .cut hcut ?_
          have hleft := ih rest.length (hrule.length_lt hcut) true rest rfl
          rw [← hpass] at hleft
          exact hleft

theorem strips_remove (hrule : Cuts rule) (s : List Char) : Strips rule true s (remove rule s) :=
  strips_removeFrom hrule true s

namespace Strips

/-- Within a line nothing is taken away. -/
theorem firstLine_eq (h : Strips rule b s t) (hnone : b = true → rule s = none) : firstLine s = firstLine t := by
  induction h with
  | done => rfl
  | @keep b c s t hkeep h ih =>
    rw [firstLine_cons, firstLine_cons]
    by_cases hc : c = '\n'
    · rw [if_pos hc, if_pos hc]
    · rw [if_neg hc, if_neg hc, ih fun hb => absurd (of_decide_eq_true hb) hc]
  | cut hcut =>
    rw [hnone rfl] at hcut
    cases hcut

theorem head?_eq (h : Strips rule b s t) (hnone : b = true → rule s = none) : s.head? = t.head? := by
  cases h with
  | done => rfl
  | keep => rfl
  | cut hcut =>
    rw [hnone rfl] at hcut
    cases hcut

/-- A line of the outcome that starts as no left line does is a line that the rule has refused. -/
theorem exists_refused (hrule : Cuts rule) (h : Strips rule b s t) (ht : t = before ++ u)
    (hbefore : StartsLine before) (hb : before = [] → b = true) (hu : ∃ c, u.head? = some c ∧ IsOwn c) :
    ∃ before' u', s = before' ++ u' ∧ StartsLine before' ∧ (before' = [] → before = []) ∧
      rule u' = none ∧ Strips rule true u' u := by
  induction h generalizing before with
  | done =>
    obtain ⟨c, hc, -⟩ := hu
    obtain ⟨-, rfl⟩ := List.append_eq_nil_iff.mp ht.symm
    cases hc
  | @keep b c s t hnone h ih =>
    cases before with
    | nil =>
      obtain rfl : c :: t = u := ht
      exact ⟨[], c :: s, rfl, .nil, fun _ => rfl, hnone (hb rfl), .keep (fun _ => hnone (hb rfl)) h⟩
    | cons d ds =>
      obtain ⟨rfl, rfl⟩ := List.cons.inj ht
      obtain ⟨hds, hfull⟩ := startsLine_cons.mp hbefore
      obtain ⟨before', u', rfl, hbefore', hempty, hrefused, hu'⟩ :=
        ih rfl hds (fun hempty => decide_eq_true (hfull hempty))
      exact ⟨c :: before', u', rfl, startsLine_cons.mpr ⟨hbefore', fun h => hfull (hempty h)⟩, nofun, hrefused,
        hu'⟩
  | @cut s rest t hcut h ih =>
    obtain ⟨⟨piece, rfl⟩, hleft⟩ := hrule _ _ hcut
    -- the line cannot start where a piece was taken away, so it starts further on
    have hne : before ≠ [] := by
      rintro rfl
      obtain rfl : t = u := ht
      obtain ⟨c, hc, hown⟩ := hu
      rw [← h.head?_eq fun _ => hrule.rest_eq_none hcut] at hc
      exact hleft c hc hown
    obtain ⟨before', u', rfl, hbefore', hempty, hrefused, hu'⟩ := ih ht hbefore (fun h => absurd h hne)
    refine ⟨"export".toList ++ (piece ++ before'), u', by simp, ?_, by simp, hrefused, hu'⟩
    rw [← List.append_assoc]
    exact hbefore'.append (fun h => hne (hempty h)) _

/-- What is found within a line of the outcome is found in the line that it was. -/
theorem exists_behind {a : List Char} (h : Strips rule b s (a ++ t)) (hnone : b = true → rule s = none)
    (ha : '\n' ∉ a) (hne : a ≠ []) : ∃ s', s = a ++ s' ∧ Strips rule false s' t := by
  induction a generalizing b s with
  | nil => exact absurd rfl hne
  | cons c cs ih =>
    cases h with
    | cut hcut =>
      rw [hnone rfl] at hcut
      cases hcut
    | @keep _ _ s _ _ h =>
      obtain ⟨hc, hcs⟩ := List.ne_and_not_mem_of_not_mem_cons ha
      have hflag : decide (c = '\n') = false := decide_eq_false (Ne.symm hc)
      rw [hflag] at h
      by_cases hempty : cs = []
      · subst hempty
        exact ⟨s, rfl, h⟩
      · obtain ⟨s', rfl, hs'⟩ := ih h nofun hcs hempty
        exact ⟨s', rfl, hs'⟩

/-- A list that is closed in the outcome was closed before, if a rule takes no closing brace away that does
not close it. -/
theorem shuts (hclosing : ∀ s rest, rule s = some rest → Shuts s ∨ ∃ piece, '\x7d' ∉ piece ∧ s = piece ++ rest)
    (h : Strips rule b s t) (ht : Shuts t) : Shuts s := by
  induction h with
  | done => exact ht
  | @keep b c s t _ h ih =>
    obtain ⟨body, tail, hbody, htail, heq⟩ := ht
    cases body with
    | nil =>
      -- behind the brace the line goes on, where nothing is taken away
      obtain ⟨rfl, rfl⟩ := List.cons.inj heq
      refine ⟨[], s, hbody, ?_, rfl⟩
      rw [h.firstLine_eq fun hb => absurd hb (by decide)]
      exact htail
    | cons d ds =>
      obtain ⟨rfl, rfl⟩ := List.cons.inj heq
      obtain ⟨hc, hds⟩ := List.ne_and_not_mem_of_not_mem_cons hbody
      obtain ⟨body', tail', hbody', htail', rfl⟩ := ih ⟨ds, tail, hds, htail, rfl⟩
      exact ⟨c :: body', tail', List.not_mem_cons_of_ne_of_not_mem hc hbody', htail', rfl⟩
  | cut hcut h ih =>
    rcases hclosing _ _ hcut with hshuts | ⟨piece, hpiece, rfl⟩
    · exact hshuts
    · obtain ⟨body, tail, hbody, htail, rfl⟩ := ih ht
      refine ⟨piece ++ body, tail, ?_, htail, by simp⟩
      exact fun hmem => (List.mem_append.mp hmem).elim hpiece hbody

theorem sublist (hrule : Cuts rule) (h : Strips rule b s t) : t.Sublist s := by
  induction h with
  | done => exact .slnil
  | keep _ _ ih => exact ih.cons_cons _
  | cut hcut _ ih =>
    obtain ⟨⟨piece, rfl⟩, -⟩ := hrule _ _ hcut
    rw [← List.append_assoc]
    exact ih.trans (List.sublist_append_right _ _)

/-- Nothing is taken away exactly if the rule refuses every line. -/
theorem length_eq_iff (hrule : Cuts rule) (h : Strips rule b s t) : t.length = s.length ↔
    ∀ before u, s = before ++ u → StartsLine before → (before = [] → b = true) → rule u = none := by
  induction h with
  | done =>
    refine iff_of_true rfl fun before u hs _ _ => ?_
    obtain ⟨-, rfl⟩ := List.append_eq_nil_iff.mp hs.symm
    cases hcut : rule [] with
    | none => rfl
    | some rest => exact absurd (hrule.length_lt hcut) (Nat.not_lt_zero _)
  | @keep b c s t hnone h ih =>
    rw [List.length_cons, List.length_cons, Nat.add_right_cancel_iff, ih]
    constructor
    · intro hrefused before u hs hbefore hb
      cases before with
      | nil =>
        obtain rfl : c :: s = u := hs
        exact hnone (hb rfl)
      | cons d ds =>
        obtain ⟨rfl, rfl⟩ := List.cons.inj hs
        obtain ⟨hds, hfull⟩ := startsLine_cons.mp hbefore
        exact hrefused ds u rfl hds fun hempty => decide_eq_true (hfull hempty)
    · intro hrefused before u hs hbefore hb
      refine hrefused (c :: before) u (congrArg (c :: ·) hs) ?_ nofun
      exact startsLine_cons.mpr ⟨hbefore, fun hempty => of_decide_eq_true (hb hempty)⟩
  | @cut s rest t hcut h ih =>
    -- a cut takes at least a character, and nothing puts one back
    have hshort := (h.sublist hrule).length_le.trans_lt (hrule.length_lt hcut)
    refine iff_of_false hshort.ne fun hrefused => ?_
    rw [hrefused [] s rfl .nil fun _ => rfl] at hcut
    cases hcut

end Strips

theorem remove_eq_self (hrule : Cuts rule) : remove rule s = s ↔
    ∀ before u, s = before ++ u → StartsLine before → rule u = none := by
  have hstrips := strips_remove hrule s
  have hlength : remove rule s = s ↔ (remove rule s).length = s.length :=
    ⟨congrArg List.length, (hstrips.sublist hrule).eq_of_length⟩
  rw [hlength, hstrips.length_eq_iff hrule]
  exact forall₄_congr fun before u _ _ => ⟨fun h => h fun _ => rfl, fun h _ => h⟩

/-! ### The three rules -/

theorem cuts_of_break (piece : List Char) (hs : s = "export".toList ++ (piece ++ rest))
    (hrest : firstLine rest = []) : (∃ piece, s = "export".toList ++ (piece ++ rest)) ∧
      ∀ c, rest.head? = some c → ¬IsOwn c := by
  refine ⟨⟨piece, hs⟩, fun c hc => ?_⟩
  cases rest with
  | nil => cases hc
  | cons d ds =>
    obtain rfl := Option.some.inj hc
    have hd : d = '\n' := by
      by_contra hd
      rw [firstLine_cons, if_neg hd] at hrest
      cases hrest
    rintro (rfl | ⟨-, hne⟩)
    · cases hd
    · exact hne hd

theorem cuts_defaultName? : Cuts defaultName? := by
  intro s rest h
  obtain ⟨gap, gap', name, tail, -, -, -, -, -, hend, rfl⟩ := defaultName?_eq_some.mp h
  obtain ⟨piece, rfl, hrest⟩ := nameEnd?_eq_some hend
  refine cuts_of_break (gap ++ ("default".toList ++ (gap' ++ (name ++ piece)))) ?_ hrest
  simp only [List.append_assoc]

theorem cuts_nameList? : Cuts nameList? := by
  intro s rest h
  obtain ⟨gap, body, tail, -, -, hend, rfl⟩ := nameList?_eq_some.mp h
  obtain ⟨piece, rfl, hrest⟩ := listEnd?_eq_some hend
  refine cuts_of_break (gap ++ '\x7b' :: (body ++ '\x7d' :: piece)) ?_ hrest
  simp only [List.append_assoc, List.cons_append]

theorem cuts_declaration? : Cuts declaration? := by
  intro s rest h
  obtain ⟨gap, lead, -, -, hrest, rfl⟩ := declaration?_eq_some.mp h
  refine ⟨⟨gap ++ lead, by simp only [List.append_assoc]⟩, fun c hc => ?_⟩
  obtain ⟨d, hhead, hd⟩ := hrest.head?
  rw [hhead] at hc
  obtain rfl := Option.some.inj hc
  rintro (heq | ⟨hblank, -⟩)
  · exact hd.ne_export heq
  · rw [hd.solid] at hblank
    cases hblank

/-- No rule that comes behind that of lists opens a list. -/
theorem shuts_of_nameList? (h : nameList? s = some rest) : Shuts s := by
  obtain ⟨gap, body, tail, hgap, hbody, hend, rfl⟩ := nameList?_eq_some.mp h
  refine ⟨"export".toList ++ (gap ++ '\x7b' :: body), tail, ?_, ?_, by simp⟩
  · simp only [List.mem_append, List.mem_cons, not_or]
    exact ⟨by decide, fun hmem => absurd (hgap _ hmem) (by decide), by decide, hbody⟩
  · exact isSome_listEnd?.mp (Option.isSome_of_eq_some hend)

theorem closing_not_mem_of_declaration? (h : declaration? s = some rest) :
    ∃ piece, '\x7d' ∉ piece ∧ s = piece ++ rest := by
  obtain ⟨gap, lead, hgap, hlead, -, rfl⟩ := declaration?_eq_some.mp h
  have hblank {gap : List Char} (hgap : Blanks gap) : '\x7d' ∉ gap := fun hmem =>
    absurd (hgap _ hmem) (by decide)
  refine ⟨"export".toList ++ (gap ++ lead), ?_, by simp⟩
  simp only [List.mem_append, not_or]
  refine ⟨by decide, hblank hgap.2, ?_⟩
  cases hlead with
  | absent => exact List.not_mem_nil
  | present hgap' => exact fun hmem => (List.mem_append.mp hmem).elim (by decide) (hblank hgap'.2)

/-! ### What is left of a source -/

/-- The source when all rules are done. -/
def cleared (source : List Char) : List Char :=
  remove declaration? (remove nameList? (remove defaultName? source))

/-- A place where a line starts when all rules are done, and what stood there before each of them. -/
inductive LeftOver (source : List Char) : List Char → Prop where
  | intro {before s t u v : List Char} (hsource : source = before ++ s) (hbefore : StartsLine before)
      (hname : defaultName? s = none) (hfirst : Strips defaultName? true s t)
      (hlist : nameList? t = none) (hsecond : Strips nameList? true t u)
      (hdeclared : declaration? u = none) (hthird : Strips declaration? true u v) : LeftOver source v

variable {source : List Char}

theorem leftOver_of_cleared (before : List Char) (h : cleared source = before ++ u) (hbefore : StartsLine before)
    (hu : ∃ c, u.head? = some c ∧ IsOwn c) : LeftOver source u := by
  -- back through the rules, the last one first; the first character stays the same
  obtain ⟨b₃, u₃, h₃, hb₃, -, hdeclared, hthird⟩ :=
    (strips_remove cuts_declaration? _).exists_refused cuts_declaration? h hbefore (fun _ => rfl) hu
  have hu₃ := hthird.head?_eq fun _ => hdeclared
  obtain ⟨b₂, u₂, h₂, hb₂, -, hlist, hsecond⟩ :=
    (strips_remove cuts_nameList? _).exists_refused cuts_nameList? h₃ hb₃ (fun _ => rfl) (hu₃ ▸ hu)
  have hu₂ := hsecond.head?_eq fun _ => hlist
  obtain ⟨b₁, u₁, h₁, hb₁, -, hname, hfirst⟩ :=
    (strips_remove cuts_defaultName? _).exists_refused cuts_defaultName? h₂ hb₂ (fun _ => rfl) (hu₂ ▸ hu₃ ▸ hu)
  exact .intro h₁ hb₁ hname hfirst hlist hsecond hdeclared hthird

/-- The line that is left is one of the source. -/
theorem LeftOver.firstLine_mem (h : LeftOver source u) : firstLine u ∈ Text.splitChars '\n' source := by
  obtain ⟨hsource, hbefore, hname, hfirst, hlist, hsecond, hdeclared, hthird⟩ := h
  rw [← hthird.firstLine_eq fun _ => hdeclared, ← hsecond.firstLine_eq fun _ => hlist,
    ← hfirst.firstLine_eq fun _ => hname]
  exact List.mem_of_getElem? (getElem?_lines.mpr ⟨_, _, hsource, hbefore, rfl, rfl⟩)

/-- The line that is left is no export: the rule for it would have taken it away. -/
theorem LeftOver.not_isExport (h : LeftOver source u) : ¬IsExport (firstLine u) := by
  cases h with
  | @intro _ s₁ s₂ s₃ _ _ _ hname hfirst hlist hsecond hdeclared hthird =>
    rw [← hthird.firstLine_eq fun _ => hdeclared]
    rintro (hline | hline | hline)
    · rw [← hsecond.firstLine_eq fun _ => hlist, ← hfirst.firstLine_eq fun _ => hname] at hline
      have hs : ExportsName IsTightEnd s₁ :=
        of_firstLine hline fun _ _ h => h.append fun _ _ => IsTightEnd.append
      rw [← isSome_defaultName?, hname] at hs
      cases hs
    · rw [← hsecond.firstLine_eq fun _ => hlist] at hline
      have hs : ExportsList s₂ := of_firstLine hline fun _ _ => ExportsList.append
      rw [← isSome_nameList?, hlist] at hs
      cases hs
    · have hs : ExportsDeclaration s₃ := of_firstLine hline fun _ _ => ExportsDeclaration.append
      rw [← isSome_declaration?, hdeclared] at hs
      cases hs

/-- A list that is left over was one when the rule for lists refused it, unless its brace is on another line. -/
theorem LeftOver.not_exportsList {gap rest : List Char} (hgap : '\n' ∉ gap)
    (h : LeftOver source ("export".toList ++ (gap ++ '\x7b' :: rest))) (hblank : Blanks gap) : ¬Shuts rest := by
  intro hshuts
  have hline : '\n' ∉ "export".toList ++ (gap ++ ['\x7b']) := by
    simp only [List.mem_append, List.mem_singleton, not_or]
    exact ⟨by decide, hgap, by decide⟩
  have hne : "export".toList ++ (gap ++ ['\x7b']) ≠ [] := by simp
  have hsplit (s : List Char) :
      "export".toList ++ (gap ++ '\x7b' :: s) = "export".toList ++ (gap ++ ['\x7b']) ++ s := by simp
  rw [hsplit] at h
  cases h with
  | intro _ _ _ _ hlist hsecond hdeclared hthird =>
    obtain ⟨rest₃, rfl, hrest₃⟩ := hthird.exists_behind (fun _ => hdeclared) hline hne
    obtain ⟨rest₂, rfl, hrest₂⟩ := hsecond.exists_behind (fun _ => hlist) hline hne
    have hshuts₃ := hrest₃.shuts (fun _ _ h => .inr (closing_not_mem_of_declaration? h)) hshuts
    have hshuts₂ := hrest₂.shuts (fun _ _ h => .inl (shuts_of_nameList? h)) hshuts₃
    have hs := isSome_nameList?.mpr (.intro hblank hshuts₂)
    rw [hsplit, hlist] at hs
    cases hs

/-! ### Lines that dangle -/

/-- What follows the `export` of a dangling line. -/
inductive Trails : List Char → Prop where
  | blanks {gap : List Char} (hgap : Blanks gap) : Trails gap
  | word {gap rest : List Char} {word : String} (hgap : Gap gap) (hword : word ∈ ["default", "async"])
      (hrest : Trails rest) : Trails (gap ++ (word.toList ++ rest))

/-- Whether a line holds an `export` and nothing to export. -/
def Dangles (line : List Char) : Prop := ∃ rest, Trails rest ∧ line = "export".toList ++ rest

/-- Behind its `export` a dangling line holds blanks and the letters of its words. -/
theorem Trails.letters (h : Trails s) :
    ∀ c ∈ s, isBlank c = true ∨ c ∈ "default".toList ∨ c ∈ "async".toList := by
  induction h with
  | blanks hgap => exact fun c hc => .inl (hgap c hc)
  | @word gap rest word hgap hword hrest ih =>
    intro c hc
    rcases List.mem_append.mp hc with hc | hc
    · exact .inl (hgap.2 c hc)
    rcases List.mem_append.mp hc with hc | hc
    · right
      simp only [List.mem_cons, List.not_mem_nil, or_false] at hword
      rcases hword with rfl | rfl
      · exact .inl hc
      · exact .inr hc
    · exact ih c hc

/-- A line ends within blanks or goes on behind them. -/
theorem firstLine_gap {gap : List Char} (hgap : Blanks gap) (rest : List Char) :
    Blanks (firstLine (gap ++ rest)) ∨ firstLine (gap ++ rest) = gap ++ firstLine rest := by
  rw [firstLine_append]
  split
  · exact .inl hgap.line
  · exact .inr rfl

theorem firstLine_word {word : String} (hword : '\n' ∉ word.toList) (rest : List Char) :
    firstLine (word.toList ++ rest) = word.toList ++ firstLine rest := by
  rw [firstLine_append, if_neg hword]

theorem firstLine_firstLine (s : List Char) : firstLine (firstLine s) = firstLine s := by
  obtain ⟨-, -, hnone, -⟩ := exists_firstLine s
  exact Text.firstLine_of_not_mem hnone

/-- A declaration ends its line, or the line ends behind `async`. -/
theorem IsDeclaration.ends (h : IsDeclaration s) : IsDeclaration (firstLine s) ∨
    ∃ gap, Blanks gap ∧ firstLine s = "async".toList ++ gap := by
  have hletters : ∀ word ∈ declarationWords, '\n' ∉ word.toList := by decide
  cases h with
  | @intro lead tail word hlead hword htail =>
    have hline := firstLine_word (hletters word hword) tail
    have hhead (c : Char) (hc : (firstLine tail).head? = some c) : isWord c = false := by
      obtain ⟨rest, hs, -⟩ := exists_firstLine tail
      rw [hs, List.head?_append, hc] at htail
      exact htail c rfl
    cases hlead with
    | absent =>
      rw [List.nil_append, hline]
      exact .inl (.intro .absent hword hhead)
    | @present gap hgap =>
      rw [List.append_assoc, firstLine_word (by decide)]
      rcases firstLine_gap hgap.2 (word.toList ++ tail) with hblank | hgo
      · exact .inr ⟨_, hblank, rfl⟩
      · rw [hgo, hline, ← List.append_assoc]
        exact .inl (.intro (.present hgap) hword hhead)

/-- An export that is left over is read across the end of a dangling line. -/
theorem LeftOver.dangles (h : LeftOver source u) (hu : IsExport u) : Dangles (firstLine u) := by
  have hline := h.not_isExport
  -- either the line ends within the blanks behind a word, or it holds the whole export and was no such line
  rcases hu with hname | hlist | hdeclared
  · cases hname with
    | @intro gap gap' name tail hgap hgap' hne hname htail =>
      rw [firstLine_word (by decide)] at hline ⊢
      rcases firstLine_gap hgap.2 ("default".toList ++ (gap' ++ (name ++ tail))) with hblank | hgo
      · exact ⟨_, .blanks hblank, rfl⟩
      rw [hgo, firstLine_word (by decide)] at hline ⊢
      rcases firstLine_gap hgap'.2 (name ++ tail) with hblank | hgo'
      · exact ⟨_, .word hgap (by decide) (.blanks hblank), rfl⟩
      · have hletters : '\n' ∉ name := fun hmem => absurd (hname _ hmem) (by decide)
        rw [hgo', firstLine_append, if_neg hletters] at hline
        refine absurd (.inl (.intro hgap hgap' hne hname ?_)) hline
        rwa [firstLine_firstLine]
  · cases hlist with
    | @intro gap rest hgap hrest =>
      by_cases hbreak : '\n' ∈ gap
      · rw [firstLine_word (by decide), firstLine_append, if_pos hbreak]
        exact ⟨_, .blanks hgap.line, rfl⟩
      · exact absurd hrest (h.not_exportsList hbreak hgap)
  · cases hdeclared with
    | @intro gap lead rest hgap hlead hrest =>
      rw [firstLine_word (by decide)] at hline ⊢
      rcases firstLine_gap hgap.2 (lead ++ rest) with hblank | hgo
      · exact ⟨_, .blanks hblank, rfl⟩
      rw [hgo] at hline ⊢
      cases hlead with
      | absent =>
        rcases hrest.ends with hrest | ⟨gap', hgap', hasync⟩
        · exact absurd (.inr (.inr (.intro hgap .absent hrest))) hline
        · rw [List.nil_append, hasync]
          exact ⟨_, .word hgap (by decide) (.blanks hgap'), rfl⟩
      | @present gap' hgap' =>
        rw [List.append_assoc, firstLine_word (by decide)] at hline ⊢
        rcases firstLine_gap hgap'.2 rest with hblank | hgo'
        · exact ⟨_, .word hgap (by decide) (.blanks hblank), rfl⟩
        rw [hgo'] at hline ⊢
        rcases hrest.ends with hrest | ⟨gap'', hgap'', hasync⟩
        · rw [← List.append_assoc "default".toList] at hline
          exact absurd (.inr (.inr (.intro hgap (.present hgap') hrest))) hline
        · rw [hasync]
          exact ⟨_, .word hgap (by decide) (.word hgap' (by decide) (.blanks hgap'')), rfl⟩

/-! ### Stripping -/

theorem toList_strip (source : String) : (strip source).toList = trimChars (cleared source.toList) := by
  rw [strip, String.toList_ofList]
  rfl

/-- Where a line of the stripped source starts as an export does, a line is left over; only the first line
can have been indented. -/
theorem exists_leftOver {source : String} (h : (strip source).toList = before ++ u)
    (hbefore : StartsLine before) (hu : "export".toList <+: u) : ∃ gap trail, Blanks gap ∧ '\n' ∉ gap ∧
      Blanks trail ∧ (gap ≠ [] → before = []) ∧ LeftOver source.toList (gap ++ (u ++ trail)) := by
  obtain ⟨lead, trail, hlead, htrail, hcleared⟩ := Text.exists_trimChars (cleared source.toList)
  rw [← toList_strip, h] at hcleared
  have hhead (rest : List Char) : ∃ c, (u ++ rest).head? = some c ∧ IsOwn c := by
    obtain ⟨r, rfl⟩ := hu
    exact ⟨'e', rfl, .inl rfl⟩
  by_cases hempty : before = []
  · subst hempty
    -- of what is trimmed at the start, the blanks behind its last break stand on the line itself
    obtain ⟨above, gap, rfl, habove, hgap⟩ := exists_lastLine lead
    have hblank : Blanks gap := fun c hc => hlead c (List.mem_append_right _ hc)
    refine ⟨gap, trail, hblank, hgap, htrail, fun _ => rfl, leftOver_of_cleared above ?_ habove ?_⟩
    · rw [hcleared]
      simp
    · cases gap with
      | nil => exact hhead trail
      | cons c cs =>
        have hc : c ≠ '\n' := fun hc => hgap (hc ▸ List.mem_cons_self)
        exact ⟨c, rfl, .inr ⟨hblank c List.mem_cons_self, hc⟩⟩
  · refine ⟨[], trail, nofun, List.not_mem_nil, htrail, fun h => absurd rfl h, ?_⟩
    refine leftOver_of_cleared (lead ++ before) ?_ (hbefore.append hempty lead) (hhead trail)
    rw [hcleared]
    simp

/-- The line that is left over holds the line of the stripped source. -/
theorem firstLine_between {gap trail : List Char} (hgap : '\n' ∉ gap) (htrail : Blanks trail) (u : List Char) :
    ∃ t, Blanks t ∧ firstLine (gap ++ (u ++ trail)) = gap ++ (firstLine u ++ t) := by
  obtain ⟨t, ht, hline⟩ := exists_firstLine_append u htrail.line
  exact ⟨t, ht, by rw [firstLine_append, if_neg hgap, hline]⟩

theorem isExport_iff : IsExport s ↔
    (defaultName? s).isSome ∨ (nameList? s).isSome ∨ (declaration? s).isSome := by
  rw [isSome_defaultName?, isSome_nameList?, isSome_declaration?]
  rfl

theorem sublist_remove (hrule : Cuts rule) (s : List Char) : (remove rule s).Sublist s :=
  (strips_remove hrule s).sublist hrule

/-- Stripping once more changes nothing exactly if no line of the outcome begins an export. -/
theorem strip_strip_eq_iff (source : String) : strip (strip source) = strip source ↔
    ∀ before rest, (strip source).toList = before ++ rest → StartsLine before → ¬IsExport rest := by
  rw [← String.toList_inj, toList_strip]
  have htrim : trimChars (strip source).toList = (strip source).toList := by
    rw [toList_strip]
    exact Text.trimChars_eq_self.mpr (Text.trimmed_trimChars _)
  generalize (strip source).toList = outcome at htrim ⊢
  constructor
  · intro h before rest hrest hbefore hexport
    -- what comes out unchanged has lost nothing to any rule
    have hback : outcome.Sublist (cleared outcome) := by
      have hinfix := (Text.trimChars_infix (cleared outcome)).sublist
      rwa [h] at hinfix
    rw [cleared] at hback
    have hname : remove defaultName? outcome = outcome := (sublist_remove cuts_defaultName? _).antisymm
      ((hback.trans (sublist_remove cuts_declaration? _)).trans (sublist_remove cuts_nameList? _))
    rw [hname] at hback
    have hlist : remove nameList? outcome = outcome := (sublist_remove cuts_nameList? _).antisymm
      (hback.trans (sublist_remove cuts_declaration? _))
    rw [hlist] at hback
    have hdeclared : remove declaration? outcome = outcome :=
      (sublist_remove cuts_declaration? _).antisymm hback
    rw [isExport_iff, (remove_eq_self cuts_defaultName?).mp hname before rest hrest hbefore,
      (remove_eq_self cuts_nameList?).mp hlist before rest hrest hbefore,
      (remove_eq_self cuts_declaration?).mp hdeclared before rest hrest hbefore] at hexport
    simp at hexport
  · intro h
    have hrefused (before rest : List Char) (hrest : outcome = before ++ rest) (hbefore : StartsLine before) :
        defaultName? rest = none ∧ nameList? rest = none ∧ declaration? rest = none := by
      have hnone := h before rest hrest hbefore
      rw [isExport_iff] at hnone
      simpa using hnone
    rw [cleared,
      (remove_eq_self cuts_defaultName?).mpr fun before rest hr hb => (hrefused before rest hr hb).1,
      (remove_eq_self cuts_nameList?).mpr fun before rest hr hb => (hrefused before rest hr hb).2.1,
      (remove_eq_self cuts_declaration?).mpr fun before rest hr hb => (hrefused before rest hr hb).2.2]
    exact htrim

/-- A line that is stripped in one go: an `export` stands at its start if it stands behind its blanks, it is
followed by what it exports, and a name by its semicolon. -/
structure IsTidy (line : List Char) : Prop where
  flush : "export".toList <+: line.dropWhile isBlank → "export".toList <+: line
  whole : ¬Dangles line
  joined : ¬IsSpaced line

/-- In a tidy source what starts a line of the outcome as an export does started a line before. -/
theorem exists_leftOver_of_tidy {source : String} (htidy : ∀ line ∈ linesOf source, IsTidy line)
    (h : (strip source).toList = before ++ u) (hbefore : StartsLine before) (hu : "export".toList <+: u) :
    ∃ trail t, Blanks trail ∧ Blanks t ∧ LeftOver source.toList (u ++ trail) ∧
      firstLine (u ++ trail) = firstLine u ++ t ∧ IsTidy (firstLine u ++ t) := by
  obtain ⟨gap, trail, hblank, hgap, htrail, -, hleft⟩ := exists_leftOver h hbefore hu
  obtain ⟨t, ht, hline⟩ := firstLine_between hgap htrail u
  have hmem := hleft.firstLine_mem
  rw [hline] at hmem
  have hflush : gap = [] := by
    obtain ⟨r, rfl⟩ := hu
    rw [firstLine_word (by decide)] at hmem
    have hdrop := (span_append hblank (t := "export".toList ++ firstLine r ++ t) fun c hc => by
      obtain rfl := Option.some.inj hc
      decide).2
    have hstart := (htidy _ hmem).flush (by rw [hdrop, List.append_assoc]; exact List.prefix_append _ _)
    cases gap with
    | nil => rfl
    | cons c cs =>
      obtain rfl : 'e' = c := (List.cons_prefix_cons.mp hstart).1
      exact absurd (hblank 'e' List.mem_cons_self) (by decide)
  subst hflush
  exact ⟨trail, t, htrail, ht, hleft, hline, htidy _ hmem⟩

/-- No line of a stripped source is an export but the first, and that only if it was indented. Where all lines
are tidy none is, and stripping once more changes nothing. -/
theorem strip_clears (source : String) :
    (∀ k line, (linesOf (strip source))[k]? = some line → IsExport line → k = 0 ∧
      ∃ gap trail, Gap gap ∧ Blanks trail ∧ gap ++ (line ++ trail) ∈ linesOf source) ∧
    (strip (strip source) = strip source ↔
      ∀ before rest, (strip source).toList = before ++ rest → StartsLine before → ¬IsExport rest) ∧
    ((∀ line ∈ linesOf source, IsTidy line) →
      (∀ line ∈ linesOf (strip source), ¬IsExport line ∧ ¬IsSpaced line) ∧
      strip (strip source) = strip source) := by
  refine ⟨fun k line hline hexport => ?_, strip_strip_eq_iff source, fun htidy => ⟨fun line hline => ?_, ?_⟩⟩
  · obtain ⟨before, u, houtcome, hbefore, rfl, rfl⟩ := getElem?_lines.mp hline
    have hu := hexport.starts.trans (List.takeWhile_prefix _)
    obtain ⟨gap, trail, hblank, hgap, htrail, hfirst, hleft⟩ := exists_leftOver houtcome hbefore hu
    obtain ⟨t, ht, hbetween⟩ := firstLine_between hgap htrail u
    have hne : gap ≠ [] := by
      rintro rfl
      refine hleft.not_isExport ?_
      rw [hbetween]
      exact hexport.append ht.line
    refine ⟨by rw [hfirst hne]; rfl, gap, t, ⟨hne, hblank⟩, ht, ?_⟩
    rw [← hbetween]
    exact hleft.firstLine_mem
  · obtain ⟨k, hk⟩ := List.mem_iff_getElem?.mp hline
    obtain ⟨before, u, houtcome, hbefore, -, rfl⟩ := getElem?_lines.mp hk
    constructor
    · intro hexport
      have hu := hexport.starts.trans (List.takeWhile_prefix _)
      obtain ⟨trail, t, -, ht, hleft, hbetween, -⟩ := exists_leftOver_of_tidy htidy houtcome hbefore hu
      refine hleft.not_isExport ?_
      rw [hbetween]
      exact hexport.append ht.line
    · intro hspaced
      have hu := ExportsName.starts hspaced |>.trans (List.takeWhile_prefix _)
      obtain ⟨trail, t, -, ht, hleft, -, hline⟩ := exists_leftOver_of_tidy htidy houtcome hbefore hu
      exact hline.joined (ExportsName.append hspaced (fun _ _ => IsLooseEnd.append) ht.line)
  · refine (strip_strip_eq_iff source).mpr fun before rest houtcome hbefore hexport => ?_
    obtain ⟨trail, t, htrail, -, hleft, hbetween, hline⟩ :=
      exists_leftOver_of_tidy htidy houtcome hbefore hexport.starts
    have hdangles := hleft.dangles (hexport.append htrail.line)
    rw [hbetween] at hdangles
    exact hline.whole hdangles

/-- A source with all kinds of exports. -/
def tidySource : String :=
  "export class A \x7b\x7d\nexport \x7b\n  A,\n\x7d\n" ++
    "export default async function f() \x7b\n  return A\n\x7d\nexport default A\n"

theorem strip_clears_tidySource : (∀ line ∈ linesOf tidySource, IsTidy line) ∧
    strip tidySource = "class A \x7b\x7d\n\nasync function f() \x7b\n  return A\n\x7d" ∧
    (∀ line ∈ linesOf (strip tidySource), ¬IsExport line ∧ ¬IsSpaced line) ∧
    strip (strip tidySource) = strip tidySource := by
  have hlines : ∀ line ∈ linesOf tidySource,
      ("export".toList <+: line.dropWhile isBlank → "export".toList <+: line) ∧ ';' ∉ line ∧
      ("export".toList <+: line → (line.drop 6).any fun c =>
        !isBlank c && !"default".toList.contains c && !"async".toList.contains c) := by decide +kernel
  have htidy : ∀ line ∈ linesOf tidySource, IsTidy line := by
    intro line hline
    obtain ⟨hflush, hsemicolon, hletter⟩ := hlines line hline
    refine ⟨hflush, ?_, ?_⟩
    · rintro ⟨rest, hrest, rfl⟩
      -- a dangling line would have none of the letters that stand behind the `export` of each line
      obtain ⟨c, hc, hother⟩ := List.any_eq_true.mp (hletter (List.prefix_append _ _))
      obtain ⟨⟨hblank, hdefault⟩, hasync⟩ :
          (isBlank c = false ∧ c ∉ "default".toList) ∧ c ∉ "async".toList := by simpa using hother
      rcases hrest.letters c hc with h | h | h
      · rw [hblank] at h
        cases h
      · exact hdefault h
      · exact hasync h
    · intro hspaced
      cases hspaced with
      | @intro _ _ _ tail _ _ _ _ htail =>
        obtain ⟨gap, gap', -, -, hend⟩ := htail
        have hmem : ';' ∈ firstLine tail := by
          rw [hend]
          exact List.mem_append_right _ List.mem_cons_self
        exact hsemicolon (by simp [(List.takeWhile_prefix _).subset hmem])
  obtain ⟨hcleared, hagain⟩ := (strip_clears tidySource).2.2 htidy
  exact ⟨htidy, by decide +kernel, hcleared, hagain⟩

/-- Trimming comes after the rules, so an indented export on the first line stays. -/
theorem not_clears_indented :
    ¬∀ source : String, (∀ line ∈ linesOf (strip source), ¬IsExport line) ∧
      strip (strip source) = strip source := by
  intro h
  have hstrip : strip " export let a = 1" = "export let a = 1" := by decide +kernel
  have hline : "export let a = 1".toList ∈ linesOf (strip " export let a = 1") := by
    rw [hstrip]
    decide +kernel
  have hdeclared : IsDeclaration ([] ++ ("let".toList ++ " a = 1".toList)) :=
    .intro .absent (by decide) fun c hc => by
      obtain rfl := Option.some.inj hc
      decide
  have hexport : ExportsDeclaration
      ("export".toList ++ ([' '] ++ ([] ++ ([] ++ ("let".toList ++ " a = 1".toList))))) :=
    .intro ⟨List.cons_ne_nil _ _, Directive.blanks_space⟩ .absent hdeclared
  exact (h " export let a = 1").1 _ hline (.inr (.inr hexport))

end Storybind.Exports
