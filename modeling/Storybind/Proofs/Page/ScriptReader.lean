import Mathlib.Tactic
import Storybind.Proofs.Page.Closing

/-!
How a reader of markup goes through the text of a script element. A closing tag ends the element unless
the text swallows it: a comment that was opened and not closed, with an opening tag of a script in it,
turns the next closing tag into text.
-/

namespace Storybind.Page

/-- Where a reader of markup stands in a script element: in plain text, in a comment, or in a script
that was opened in a comment. The names say what was read last; the name of a tag is kept in lower
case. -/
inductive ScriptState where
  | plain
  | plainLess
  | plainEnd
  | plainEndName (name : List Char)
  | commentStart
  | commentStartDash
  | comment
  | commentDash
  | commentDashes
  | commentLess
  | commentEnd
  | commentEndName (name : List Char)
  | nestedStart (name : List Char)
  | nested
  | nestedDash
  | nestedDashes
  | nestedLess
  | nestedEndName (name : List Char)
  | closed
deriving DecidableEq

/-- The name of a script element. -/
def scriptWord : List Char := ['s', 'c', 'r', 'i', 'p', 't']

/-- What may follow the name of a tag; a carriage return counts as a line feed. -/
def endsTagName (c : Char) : Bool :=
  c = '\t' || c = '\n' || c = '\x0c' || c = '\r' || c = ' ' || c = '/' || c = '>'

namespace ScriptState

/-- The state after a character that belongs to no tag, in plain text, in a comment and in a script
opened there. -/
def inPlain (c : Char) : ScriptState := if c = '<' then plainLess else plain

def inComment (c : Char) : ScriptState :=
  if c = '-' then commentDash else if c = '<' then commentLess else comment

def inNested (c : Char) : ScriptState :=
  if c = '-' then nestedDash else if c = '<' then nestedLess else nested

/-- The state after one more character. -/
def next : ScriptState → Char → ScriptState
  | plain, c => inPlain c
  | plainLess, c =>
    if c = '/' then plainEnd else if c = '!' then commentStart else inPlain c
  | plainEnd, c => if Text.isAsciiLetter c then plainEndName [c.toLower] else inPlain c
  | plainEndName name, c =>
    if Text.isAsciiLetter c then plainEndName (name ++ [c.toLower])
    else if endsTagName c && name = scriptWord then closed
    else inPlain c
  | commentStart, c => if c = '-' then commentStartDash else inPlain c
  | commentStartDash, c => if c = '-' then commentDashes else inPlain c
  | comment, c => inComment c
  | commentDash, c => if c = '-' then commentDashes else inComment c
  | commentDashes, c =>
    if c = '-' then commentDashes else if c = '>' then plain else inComment c
  | commentLess, c =>
    if c = '/' then commentEnd
    else if Text.isAsciiLetter c then nestedStart [c.toLower]
    else inComment c
  | commentEnd, c => if Text.isAsciiLetter c then commentEndName [c.toLower] else inComment c
  | commentEndName name, c =>
    if Text.isAsciiLetter c then commentEndName (name ++ [c.toLower])
    else if endsTagName c && name = scriptWord then closed
    else inComment c
  | nestedStart name, c =>
    if Text.isAsciiLetter c then nestedStart (name ++ [c.toLower])
    else if endsTagName c then (if name = scriptWord then nested else comment)
    else inComment c
  | nested, c => inNested c
  | nestedDash, c => if c = '-' then nestedDashes else inNested c
  | nestedDashes, c => if c = '-' then nestedDashes else if c = '>' then plain else inNested c
  | nestedLess, c => if c = '/' then nestedEndName [] else inNested c
  | nestedEndName name, c =>
    if Text.isAsciiLetter c then nestedEndName (name ++ [c.toLower])
    else if endsTagName c then (if name = scriptWord then comment else nested)
    else inNested c
  | closed, _ => closed

/-- The state after a text. -/
def run (st : ScriptState) (s : List Char) : ScriptState := s.foldl next st

/-- Whether a state lies in a script that was opened in a comment. -/
def isNested : ScriptState → Bool
  | nested | nestedDash | nestedDashes | nestedLess | nestedEndName _ => true
  | _ => false

/-- Whether a state lies in a comment, or in a script that was opened there. -/
def isCommented : ScriptState → Bool
  | comment | commentDash | commentDashes | commentLess | commentEnd | commentEndName _
  | nestedStart _ => true
  | st => st.isNested

/-- Whether two hyphens were read last, in a comment. -/
def isDashes : ScriptState → Bool
  | commentDashes | nestedDashes => true
  | _ => false

/-- The end of the text read that a state still has in mind. -/
def pending : ScriptState → List Char
  | plainLess | commentLess | nestedLess => ['<']
  | plainEnd | commentEnd => ['<', '/']
  | plainEndName name | commentEndName name | nestedEndName name => '<' :: '/' :: name
  | commentStart => ['<', '!']
  | commentStartDash => ['<', '!', '-']
  | commentDash | nestedDash => ['-']
  | commentDashes | nestedDashes => ['-', '-']
  | nestedStart name => '<' :: name
  | _ => []

end ScriptState

open ScriptState

/-- What follows the closing tag that ends a script element, for a reader who stands in it. -/
def afterScript? : ScriptState → List Char → Option (List Char)
  | _, [] => none
  | st, c :: cs => if st.next c = closed then some cs else afterScript? (st.next c) cs

/-- What opens a comment, and what closes one. -/
def commentOpener : List Char := ['<', '!', '-', '-']

def commentCloser : List Char := ['-', '-', '>']

/-- Whether a text begins with an opening tag of a script. -/
def OpensScript (t : List Char) : Prop :=
  ∃ name c rest, t = '<' :: name ++ c :: rest ∧ name.map Char.toLower = scriptWord ∧
    endsTagName c = true

/-- Whether a text ends in the comment text `b`. The hyphens that open a comment may already belong
to what closes it. -/
def EndsInComment (b s : List Char) : Prop :=
  (∃ a, s = a ++ commentOpener ++ b) ∧ ¬commentCloser <:+: '-' :: '-' :: b

/-- Whether a text swallows the closing tag that follows it: it ends in a comment in which a script is
opened. -/
def Swallows (s : List Char) : Prop :=
  ∃ b, EndsInComment b s ∧ ∃ t, t <:+ b ∧ OpensScript t

/-- Whether no closing tag of a script begins in a text. -/
def Unclosed (s : List Char) : Prop := ¬closingStart <:+: s.map Char.toLower

variable {a b p r s t name : List Char} {c : Char} {st : ScriptState}

theorem Unclosed.of_append (h : Unclosed (s ++ t)) : Unclosed s := by
  intro hs
  apply h
  rw [List.map_append]
  exact hs.trans (List.prefix_append _ _).isInfix

theorem Quiet.unclosed (h : Quiet s) : Unclosed s := by
  rintro ⟨u, v, huv⟩
  obtain ⟨w, z, rfl, hw, rfl⟩ := List.map_eq_append_iff.mp huv.symm
  obtain ⟨x, y, rfl, rfl, hy⟩ := List.map_eq_append_iff.mp hw
  -- `y` is the closing tag and `z` what follows it
  have hlength : y.length = closingStart.length := by rw [← hy, List.length_map]
  have hstart : startsPlain closingStart (y ++ z) = true := by
    rw [startsPlain, ← hlength, List.take_left, hy]
    exact decide_eq_true rfl
  have hne : y ++ z ≠ [] := by
    intro hnil
    rw [(List.append_eq_nil_iff.mp hnil).1] at hlength
    exact absurd hlength (by decide)
  have hsuffix : y ++ z <:+ x ++ y ++ z := ⟨x, (List.append_assoc x y z).symm⟩
  have hquiet := h (y ++ z) hsuffix hne []
  rw [List.append_nil, hstart] at hquiet
  cases hquiet

/-! ### One more character -/

theorem run_concat (st : ScriptState) (s : List Char) (c : Char) :
    run st (s ++ [c]) = (run st s).next c := by
  simp [run]

theorem run_append (st : ScriptState) (s t : List Char) : run st (s ++ t) = run (run st s) t :=
  List.foldl_append

theorem pending_inPlain (c : Char) (t : List Char) : (inPlain c).pending <:+ t ++ [c.toLower] := by
  unfold inPlain
  split
  · next h => exact h ▸ List.suffix_append t ['<']
  · exact List.nil_suffix

theorem pending_inComment (c : Char) (t : List Char) :
    (inComment c).pending <:+ t ++ [c.toLower] := by
  unfold inComment
  split_ifs with hdash hless
  · exact hdash ▸ List.suffix_append t ['-']
  · exact hless ▸ List.suffix_append t ['<']
  · exact List.nil_suffix

theorem pending_inNested (c : Char) (t : List Char) : (inNested c).pending <:+ t ++ [c.toLower] := by
  unfold inNested
  split_ifs with hdash hless
  · exact hdash ▸ List.suffix_append t ['-']
  · exact hless ▸ List.suffix_append t ['<']
  · exact List.nil_suffix

theorem pending_next (st : ScriptState) (c : Char) :
    (st.next c).pending <:+ st.pending ++ [c.toLower] := by
  -- what a state has in mind was read last, so a character either goes on with it or ends it
  cases st with
  | plain => exact pending_inPlain c []
  | comment => exact pending_inComment c []
  | nested => exact pending_inNested c []
  | closed => exact List.nil_suffix
  | _ =>
    simp only [next]
    -- a tag or a run of hyphens goes on, or the character is read as in the text around
    split_ifs <;> subst_vars <;> first
      | exact pending_inPlain c _
      | exact pending_inComment c _
      | exact pending_inNested c _
      | exact List.nil_suffix
      | exact List.suffix_refl _
      | exact ⟨['-'], rfl⟩
      | exact ⟨['<', '!'], rfl⟩

theorem pending_run (s : List Char) : (run plain s).pending <:+ s.map Char.toLower := by
  induction s using List.reverseRecOn with
  | nil => exact List.nil_suffix
  | append_singleton s c ih =>
    obtain ⟨u, hu⟩ := ih
    rw [run_concat, List.map_append, ← hu]
    refine (pending_next _ c).trans ⟨u, ?_⟩
    simp

theorem Unclosed.pending_ne (h : Unclosed s) : (run plain s).pending ≠ closingStart :=
  fun hp => h (hp ▸ pending_run s).isInfix

/-! ### Leaving a comment, and the element -/

@[simp]
theorem inPlain_ne_closed (c : Char) : inPlain c ≠ closed := by
  unfold inPlain
  split <;> exact ScriptState.noConfusion

@[simp]
theorem inComment_ne_closed (c : Char) : inComment c ≠ closed := by
  unfold inComment
  split_ifs <;> exact ScriptState.noConfusion

@[simp]
theorem inNested_ne_closed (c : Char) : inNested c ≠ closed := by
  unfold inNested
  split_ifs <;> exact ScriptState.noConfusion

@[simp]
theorem isCommented_inPlain (c : Char) : (inPlain c).isCommented = false := by
  unfold inPlain
  split <;> rfl

@[simp]
theorem isCommented_inComment (c : Char) : (inComment c).isCommented = true := by
  unfold inComment
  split_ifs <;> rfl

@[simp]
theorem isCommented_inNested (c : Char) : (inNested c).isCommented = true := by
  unfold inNested
  split_ifs <;> rfl

@[simp]
theorem isNested_inComment (c : Char) : (inComment c).isNested = false := by
  unfold inComment
  split_ifs <;> rfl

@[simp]
theorem isNested_inNested (c : Char) : (inNested c).isNested = true := by
  unfold inNested
  split_ifs <;> rfl

@[simp]
theorem isNested_inPlain (c : Char) : (inPlain c).isNested = false := by
  unfold inPlain
  split <;> rfl

theorem isCommented_of_isNested (h : st.isNested = true) : st.isCommented = true := by
  cases st <;> first | rfl | cases h

theorem ne_scriptWord (h : '<' :: '/' :: name ≠ closingStart) : name ≠ scriptWord := by
  rintro rfl
  exact h rfl

theorem next_ne_closed (hst : st ≠ closed) (hp : st.pending ≠ closingStart) (c : Char) :
    st.next c ≠ closed := by
  -- the states that keep the name of a closing tag are the only ones from which the element ends
  cases st with
  | closed => exact absurd rfl hst
  | plain => exact inPlain_ne_closed c
  | comment => exact inComment_ne_closed c
  | nested => exact inNested_ne_closed c
  | plainEndName name | commentEndName name =>
    simp only [next, ne_scriptWord hp, decide_false, Bool.and_false, Bool.false_eq_true, if_false]
    split_ifs <;> simp
  | _ =>
    simp only [next]
    split_ifs <;> simp

theorem Unclosed.run_ne_closed (h : Unclosed s) : run plain s ≠ closed := by
  induction s using List.reverseRecOn with
  | nil => exact ScriptState.noConfusion
  | append_singleton s c ih =>
    have hs := h.of_append
    rw [run_concat]
    exact next_ne_closed (ih hs) hs.pending_ne c

/-- A comment goes on until two hyphens and `>` have been read, or a closing tag of a script. -/
theorem isCommented_next (hst : st.isCommented = true) (hdashes : ¬(st.isDashes = true ∧ c = '>'))
    (hp : st.pending ≠ closingStart) : (st.next c).isCommented = true := by
  cases st with
  | comment => exact isCommented_inComment c
  | nested => exact isCommented_inNested c
  | commentEndName name | nestedEndName name =>
    simp only [next, ne_scriptWord hp, decide_false, Bool.and_false, Bool.false_eq_true, if_false]
    split_ifs <;> first | rfl | simp
  | commentDashes | nestedDashes =>
    have hc : c ≠ '>' := fun hc => hdashes ⟨rfl, hc⟩
    simp only [next, if_neg hc]
    split_ifs <;> first | rfl | simp
  | plain | plainLess | plainEnd | plainEndName | commentStart | commentStartDash | closed =>
    cases hst
  | _ =>
    simp only [next]
    split_ifs <;> first | rfl | simp

theorem isNested_next (hst : st.isNested = true) (hdashes : ¬(st.isDashes = true ∧ c = '>'))
    (hp : st.pending ≠ closingStart) : (st.next c).isNested = true := by
  -- as for a comment, but the inner script also ends at a closing tag of its own
  cases st with
  | nested => exact isNested_inNested c
  | nestedEndName name =>
    simp only [next, if_neg (ne_scriptWord hp)]
    split_ifs <;> first | rfl | simp
  | nestedDashes =>
    have hc : c ≠ '>' := fun hc => hdashes ⟨rfl, hc⟩
    simp only [next, if_neg hc]
    split_ifs <;> first | rfl | simp
  | nestedDash | nestedLess =>
    simp only [next]
    split_ifs <;> first | rfl | simp
  | _ => cases hst

/-- Only the last hyphen of what opens a comment leads into one. -/
theorem entersComment (hst : st.isCommented = false) (h : (st.next c).isCommented = true) :
    st = commentStartDash ∧ c = '-' := by
  cases st with
  | plain => simp [next] at h
  | closed => cases h
  | commentStartDash =>
    simp only [next] at h
    split_ifs at h with hc
    · exact ⟨rfl, hc⟩
    · simp at h
  | plainLess | plainEnd | plainEndName | commentStart =>
    simp only [next] at h
    split_ifs at h <;> first | cases h | simp at h
  | _ => cases hst

/-- Only an opening tag of a script leads into a script, in a comment. -/
theorem opensNested (hst : st.isNested = false) (h : (st.next c).isNested = true) :
    st = nestedStart scriptWord ∧ endsTagName c = true := by
  cases st with
  | plain => simp [next] at h
  | comment => simp [next] at h
  | closed => cases h
  | nestedStart name =>
    simp only [next] at h
    split_ifs at h with _ hc hname
    · cases h
    · exact ⟨congrArg nestedStart hname, hc⟩
    · cases h
    · simp at h
  | nested | nestedDash | nestedDashes | nestedLess | nestedEndName => cases hst
  | _ =>
    simp only [next] at h
    split_ifs at h <;> first | cases h | simp at h

theorem isDashes_of_suffix (hst : (run st s).isCommented = true) (h : ['-', '-'] <:+ s) :
    (run st s).isDashes = true := by
  -- two hyphens lead to one state from anywhere in a comment
  obtain ⟨u, rfl⟩ := h
  have hrun : run st (u ++ ['-', '-']) = ((run st u).next '-').next '-' := by simp [run]
  rw [hrun] at hst ⊢
  generalize run st u = q at hst ⊢
  cases q <;> first | rfl | cases hst

/-- A reader who stands in an element comes into a comment by what opens one, from anywhere. -/
theorem isDashes_run_commentOpener (hst : st ≠ closed) : (run st commentOpener).isDashes = true := by
  cases st <;> first | rfl | exact absurd rfl hst

theorem isCommented_of_isDashes (h : st.isDashes = true) : st.isCommented = true := by
  cases st <;> first | rfl | cases h

theorem next_of_isDashes (h : st.isDashes = true) : st.next '>' = plain := by
  cases st <;> first | rfl | cases h

theorem isAsciiLetter_of_toLower (h : Text.isAsciiLetter c.toLower = true) :
    Text.isAsciiLetter c = true := by
  have hn := toNat_toLower c
  simp only [Text.isAsciiLetter, Bool.or_eq_true, Bool.and_eq_true, decide_eq_true_eq] at h ⊢
  split at hn <;> omega

theorem run_nestedStart (hs : ∀ c ∈ s, Text.isAsciiLetter c = true) (name : List Char) :
    run (nestedStart name) s = nestedStart (name ++ s.map Char.toLower) := by
  induction s generalizing name with
  | nil => simp [run]
  | cons c s ih =>
    obtain ⟨hc, hs⟩ := List.forall_mem_cons.mp hs
    have hnext : (nestedStart name).next c = nestedStart (name ++ [c.toLower]) := by simp [next, hc]
    have hrest := ih hs (name ++ [c.toLower])
    rw [run] at hrest
    rw [run, List.foldl_cons, hnext, hrest, List.map_cons, List.append_assoc, List.singleton_append]

theorem run_nested (hs : ∀ c ∈ s, c ≠ '-' ∧ c ≠ '<') : run nested s = nested := by
  induction s with
  | nil => rfl
  | cons c s ih =>
    obtain ⟨⟨hdash, hless⟩, hs⟩ := List.forall_mem_cons.mp hs
    have hnext : nested.next c = nested := by simp [next, inNested, hdash, hless]
    have hrest := ih hs
    rw [run] at hrest
    rw [run, List.foldl_cons, hnext, hrest]

/-- An opening tag of a script in a comment opens a script, however its name is written. -/
theorem isNested_run_opensScript (hst : st.isCommented = true)
    (hname : name.map Char.toLower = scriptWord) (hc : endsTagName c = true) :
    (run st ('<' :: name ++ [c])).isNested = true := by
  have hletters : ∀ d ∈ name, Text.isAsciiLetter d = true := by
    intro d hd
    have hmem : d.toLower ∈ scriptWord := hname ▸ List.mem_map_of_mem hd
    have hall : scriptWord.all Text.isAsciiLetter = true := by decide
    exact isAsciiLetter_of_toLower (List.all_eq_true.mp hall _ hmem)
  have hc' : c ≠ '-' ∧ c ≠ '<' ∧ Text.isAsciiLetter c = false := by
    simp only [endsTagName, Bool.or_eq_true, decide_eq_true_eq] at hc
    rcases hc with (((((rfl | rfl) | rfl) | rfl) | rfl) | rfl) | rfl <;> decide
  have hother : ∀ d : Char, Text.isAsciiLetter d = true → d ≠ '-' ∧ d ≠ '<' ∧ d ≠ '/' := by
    intro d hd
    refine ⟨?_, ?_, ?_⟩ <;> rintro rfl <;> cases hd
  obtain ⟨d, ds, rfl⟩ : ∃ d ds, name = d :: ds := by
    cases name with
    | nil => cases hname
    | cons d ds => exact ⟨d, ds, rfl⟩
  obtain ⟨hd, hds⟩ := List.forall_mem_cons.mp hletters
  obtain ⟨hdash, hless, hslash⟩ := hother d hd
  have hrun : run st ('<' :: d :: ds ++ [c]) = run ((st.next '<').next d) (ds ++ [c]) := rfl
  rw [hrun]
  cases hnested : st.isNested with
  | true =>
    -- nothing in the tag leaves the script that is already open
    have hfirst : (st.next '<').next d = nested := by
      have : st.next '<' = nestedLess := by cases st <;> first | rfl | cases hnested
      rw [this]
      simp [next, inNested, hslash, hdash, hless]
    have hrest : run nested (ds ++ [c]) = nested := by
      apply run_nested
      intro x hx
      rcases List.mem_append.mp hx with hx | hx
      · obtain ⟨hxdash, hxless, -⟩ := hother x (hds x hx)
        exact ⟨hxdash, hxless⟩
      · rw [List.mem_singleton.mp hx]
        exact ⟨hc'.1, hc'.2.1⟩
    rw [hfirst, hrest]
    rfl
  | false =>
    have hfirst : (st.next '<').next d = nestedStart [d.toLower] := by
      have : st.next '<' = commentLess := by
        cases st <;> first | rfl | (cases hst; done) | cases hnested
      rw [this]
      simp [next, hslash, hd]
    have hrest := run_nestedStart hds [d.toLower]
    rw [List.singleton_append, ← List.map_cons, hname] at hrest
    have hend : (nestedStart scriptWord).next c = nested := by simp [next, hc'.2.2, hc]
    rw [hfirst, run_concat, hrest, hend]
    rfl

/-- The end of an element at its own closing tag, or of a script that was opened in a comment. -/
theorem afterScript?_closingTag (hst : st ≠ closed) (rest : List Char) :
    afterScript? st (closingTag ++ rest) =
      if st.isNested then afterScript? comment rest else some rest := by
  cases st <;> first | rfl | exact absurd rfl hst

theorem afterScript?_append (hs : run st s ≠ closed) (t : List Char) :
    afterScript? st (s ++ t) = afterScript? (run st s) t := by
  induction s generalizing st with
  | nil => rfl
  | cons c s ih =>
    have hnext : st.next c ≠ closed := by
      intro hc
      have hclosed : run closed s = closed := by
        clear hs ih
        induction s with
        | nil => rfl
        | cons _ _ ih => exact ih
      apply hs
      rw [run, List.foldl_cons, hc]
      exact hclosed
    rw [List.cons_append, afterScript?, if_neg hnext]
    exact ih hs

/-! ### Comments -/

theorem commentCloser_infix_concat : commentCloser <:+: s ++ [c] ↔
    commentCloser <:+: s ∨ ['-', '-'] <:+ s ∧ c = '>' := by
  have hcloser : commentCloser = ['-', '-'] ++ ['>'] := rfl
  rw [List.infix_concat_iff, or_comm]
  refine or_congr_right ?_
  rw [List.suffix_concat_iff, hcloser]
  constructor
  · rintro (h | ⟨t, ht, hs⟩)
    · cases h
    · obtain ⟨rfl, hc⟩ := List.append_inj' ht rfl
      exact ⟨hs, (List.singleton_inj.mp hc).symm⟩
  · rintro ⟨hs, rfl⟩
    exact .inr ⟨_, rfl, hs⟩

theorem endsInComment_concat : EndsInComment (b ++ [c]) (s ++ [c]) ↔
    EndsInComment b s ∧ ¬(['-', '-'] <:+ s ∧ c = '>') := by
  -- the character belongs to the comment text, which it closes only after two hyphens
  have hopened : (∃ a, s ++ [c] = a ++ commentOpener ++ (b ++ [c])) ↔
      ∃ a, s = a ++ commentOpener ++ b := by
    refine exists_congr fun a => ?_
    rw [← List.append_assoc, List.append_left_inj]
  rw [EndsInComment, hopened, ← List.cons_append, ← List.cons_append, commentCloser_infix_concat,
    not_or, ← and_assoc, EndsInComment]
  refine and_congr_right fun h => not_congr (and_congr_left fun _ => ?_)
  -- the text has the hyphens of the opener before `b`
  obtain ⟨⟨a, rfl⟩, -⟩ := h
  have hsuffix : '-' :: '-' :: b <:+ a ++ commentOpener ++ b := ⟨a ++ ['<', '!'], by simp [commentOpener]⟩
  refine ⟨fun h => h.trans hsuffix, fun h => ?_⟩
  exact List.suffix_of_suffix_length_le h hsuffix (by simp)

theorem EndsInComment.of_append (h : EndsInComment (b ++ t) (s ++ t)) : EndsInComment b s := by
  induction t using List.reverseRecOn with
  | nil => simpa using h
  | append_singleton t c ih =>
    rw [← List.append_assoc, ← List.append_assoc] at h
    exact ih (endsInComment_concat.mp h).1

theorem EndsInComment.suffix (h : EndsInComment b s) (ht : t <:+ s) (hdash : '-' ∉ t) : t <:+ b := by
  -- what opens a comment ends in a hyphen, so a text without one lies behind it
  obtain ⟨⟨a, rfl⟩, -⟩ := h
  have hb : b <:+ a ++ commentOpener ++ b := List.suffix_append _ b
  rcases Nat.lt_or_ge b.length t.length with hlt | hle
  · -- the last hyphen of the opener would belong to it
    have hdashed : '-' :: b <:+ a ++ commentOpener ++ b :=
      ⟨a ++ ['<', '!', '-'], by simp [commentOpener]⟩
    have hmem : '-' :: b <:+ t := List.suffix_of_suffix_length_le hdashed ht hlt
    exact absurd (hmem.subset List.mem_cons_self) hdash
  · exact List.suffix_of_suffix_length_le ht hb hle

/-! ### What a reader has in mind after a text -/

theorem exists_suffix_pending (s : List Char) :
    ∃ t, t <:+ s ∧ t.map Char.toLower = (run plain s).pending := by
  obtain ⟨u, hu⟩ := pending_run s
  obtain ⟨x, t, rfl, -, ht⟩ := List.map_eq_append_iff.mp hu.symm
  exact ⟨t, List.suffix_append x t, ht⟩

theorem eq_of_map_toLower (h : s.map Char.toLower = t)
    (ht : ∀ c ∈ t, c.toNat < 97 ∨ 122 < c.toNat) : s = t := by
  induction s generalizing t with
  | nil => simpa using h
  | cons c s ih =>
    subst h
    obtain ⟨hc, hs⟩ := List.forall_mem_cons.mp ht
    have hhead : c = c.toLower := eq_of_toLower rfl hc
    have htail : s = s.map Char.toLower := ih rfl hs
    rw [List.map_cons, ← hhead, ← htail]

theorem pending_suffix (h : ∀ c ∈ (run plain s).pending, c.toNat < 97 ∨ 122 < c.toNat) :
    (run plain s).pending <:+ s := by
  obtain ⟨t, ht, heq⟩ := exists_suffix_pending s
  rwa [← eq_of_map_toLower heq h]

theorem suffix_of_isDashes (h : (run plain s).isDashes = true) : ['-', '-'] <:+ s := by
  have hp : (run plain s).pending = ['-', '-'] := by
    generalize run plain s = st at h ⊢
    cases st <;> first | rfl | cases h
  have hs := pending_suffix (s := s)
  rw [hp] at hs
  exact hs (by simp)

/-- What one character keeps in a comment that is still open, a text keeps. -/
theorem EndsInComment.stays {Q : ScriptState → Prop}
    (hstep : ∀ st c, Q st → ¬(st.isDashes = true ∧ c = '>') → st.pending ≠ closingStart →
      Q (st.next c))
    (h : EndsInComment (b ++ t) (s ++ t)) (hs : Unclosed (s ++ t)) (hQ : Q (run plain s)) :
    Q (run plain (s ++ t)) := by
  induction t using List.reverseRecOn with
  | nil => rwa [List.append_nil]
  | append_singleton t c ih =>
    rw [← List.append_assoc] at hs
    rw [← List.append_assoc, ← List.append_assoc] at h
    obtain ⟨hbefore, hopen⟩ := endsInComment_concat.mp h
    have hunclosed := hs.of_append
    rw [← List.append_assoc, run_concat]
    apply hstep _ _ (ih hbefore hunclosed)
    · rintro ⟨hdashes, hc⟩
      exact hopen ⟨suffix_of_isDashes hdashes, hc⟩
    · exact hunclosed.pending_ne

theorem isNested_of_swallows (h : Swallows s) (hs : Unclosed s) :
    (run plain s).isNested = true := by
  obtain ⟨b, hb, t, ⟨x, rfl⟩, name, c, rest, rfl, hname, hc⟩ := h
  obtain ⟨⟨a, rfl⟩, hcloser⟩ := hb
  -- the text up to the comment, up to the tag, and up to what follows the tag
  have hsplit : a ++ commentOpener ++ (x ++ ('<' :: name ++ c :: rest)) =
      a ++ commentOpener ++ x ++ ('<' :: name ++ [c]) ++ rest := by simp
  have hb : EndsInComment (x ++ ('<' :: name ++ [c]) ++ rest)
      (a ++ commentOpener ++ x ++ ('<' :: name ++ [c]) ++ rest) := by
    refine ⟨⟨a, by simp⟩, ?_⟩
    simpa using hcloser
  rw [hsplit] at hs ⊢
  have hopened : (run plain (a ++ commentOpener)).isCommented = true := by
    have ha : Unclosed a := by
      simp only [List.append_assoc] at hs
      exact hs.of_append
    rw [run_append]
    exact isCommented_of_isDashes (isDashes_run_commentOpener ha.run_ne_closed)
  have hbefore : EndsInComment ([] ++ x) (a ++ commentOpener ++ x) := hb.of_append.of_append
  have hcommented : (run plain (a ++ commentOpener ++ x)).isCommented = true :=
    hbefore.stays (fun _ _ => isCommented_next) hs.of_append.of_append hopened
  have hnested : (run plain (a ++ commentOpener ++ x ++ ('<' :: name ++ [c]))).isNested = true := by
    rw [run_append]
    exact isNested_run_opensScript hcommented hname hc
  exact hb.stays (fun _ _ => isNested_next) hs hnested

/-- A comment that a reader is in stays open through one more character if he is in one then. -/
theorem EndsInComment.concat (hb : EndsInComment b s) (h : (run plain (s ++ [c])).isCommented = true)
    (hst : (run plain s).isCommented = true) : EndsInComment (b ++ [c]) (s ++ [c]) := by
  refine endsInComment_concat.mpr ⟨hb, ?_⟩
  rintro ⟨hdashes, rfl⟩
  rw [run_concat, next_of_isDashes (isDashes_of_suffix hst hdashes)] at h
  cases h

theorem endsInComment_of_isCommented (h : (run plain s).isCommented = true) :
    ∃ b, EndsInComment b s := by
  induction s using List.reverseRecOn with
  | nil => cases h
  | append_singleton s c ih =>
    cases hst : (run plain s).isCommented with
    | true =>
      obtain ⟨b, hb⟩ := ih hst
      exact ⟨b ++ [c], hb.concat h hst⟩
    | false =>
      rw [run_concat] at h
      obtain ⟨hstart, rfl⟩ := entersComment hst h
      have hs := pending_suffix (s := s)
      rw [hstart] at hs
      obtain ⟨a, rfl⟩ := hs (by simp [pending])
      exact ⟨[], ⟨a, by simp [commentOpener, pending]⟩, by decide⟩

theorem swallows_of_isNested (h : (run plain s).isNested = true) : Swallows s := by
  induction s using List.reverseRecOn with
  | nil => cases h
  | append_singleton s c ih =>
    have hcommented := isCommented_of_isNested h
    cases hst : (run plain s).isNested with
    | true =>
      obtain ⟨b, hb, t, ⟨x, rfl⟩, name, d, rest, rfl, hname, hd⟩ := ih hst
      have hopens : OpensScript ('<' :: name ++ d :: rest ++ [c]) :=
        ⟨name, d, rest ++ [c], by simp, hname, hd⟩
      exact ⟨_, hb.concat hcommented (isCommented_of_isNested hst), _, ⟨x, by simp⟩, hopens⟩
    | false =>
      rw [run_concat] at h
      obtain ⟨hstart, hc⟩ := opensNested hst h
      have hst' : (run plain s).isCommented = true := by
        rw [hstart]
        rfl
      obtain ⟨b, hb⟩ := endsInComment_of_isCommented hst'
      obtain ⟨t, ht, hmap⟩ := exists_suffix_pending s
      rw [hstart] at hmap
      -- the tag without the character after its name
      obtain ⟨x, name, rfl, hx, hname⟩ := List.map_eq_cons_iff.mp hmap
      obtain rfl : x = '<' := eq_of_toLower hx (by decide)
      have hdash : '-' ∉ '<' :: name := by
        intro hmem
        have hlower : Char.toLower '-' ∈ ('<' :: name).map Char.toLower := List.mem_map_of_mem hmem
        rw [hmap] at hlower
        exact absurd hlower (by decide)
      obtain ⟨y, rfl⟩ := hb.suffix ht hdash
      have hopens : OpensScript ('<' :: name ++ [c]) := ⟨name, c, [], rfl, hname, hc⟩
      have hb' := hb.concat (isCommented_of_isNested (by rwa [run_concat])) hst'
      exact ⟨_, hb', _, ⟨y, by simp⟩, hopens⟩

/-- A reader is in a script that was opened in a comment exactly after a text that swallows the next
closing tag. -/
theorem isNested_iff_swallows (hs : Unclosed s) : (run plain s).isNested = true ↔ Swallows s :=
  ⟨swallows_of_isNested, fun h => isNested_of_swallows h hs⟩

end Storybind.Page
