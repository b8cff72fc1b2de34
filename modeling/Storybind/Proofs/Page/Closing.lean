import Mathlib.Tactic
import Storybind.Proofs.Page.Scripts

/-!
Closing tags in a script block. In guarded text no closing tag of a script begins, whatever follows
the line break after it; so a script block holds one closing tag for each of its sections, and cut at
these tags it gives the sections back.
-/

namespace Storybind.Page

/-- Whether a text begins with a word in lower case, ASCII letters counting in either case. -/
def startsPlain (word s : List Char) : Bool := (s.take word.length).map Char.toLower = word

/-- What makes a tag a closing tag of a script. -/
def closingWord : List Char := ['/', 's', 'c', 'r', 'i', 'p', 't']

/-- The beginning of a closing tag of a script. -/
def closingStart : List Char := '<' :: closingWord

/-- A closing tag of a script. -/
def closingTag : List Char := closingStart ++ ['>']

/-- The pieces of a text between closing tags of scripts, `skip` characters of the last tag being still
to pass over. -/
def cutFrom : Nat → List Char → List (List Char)
  | _, [] => [[]]
  | skip + 1, _ :: cs => cutFrom skip cs
  | 0, c :: cs =>
    if startsPlain closingTag (c :: cs) then [] :: cutFrom 8 cs
    else (cutFrom 0 cs).modifyHead (c :: ·)

/-- The pieces of a text between closing tags of scripts. -/
def cutClosings (s : List Char) : List (List Char) := cutFrom 0 s

variable {c d : Char} {s t r word : List Char}

/-! ### Letters -/

theorem toNat_toLower (c : Char) :
    c.toLower.toNat = if 65 ≤ c.toNat ∧ c.toNat ≤ 90 then c.toNat + 32 else c.toNat := by
  have hrange : (c.val ≥ 'A'.val ∧ c.val ≤ 'Z'.val) ↔ 65 ≤ c.toNat ∧ c.toNat ≤ 90 := Iff.rfl
  unfold Char.toLower
  split
  · next h =>
    rw [if_pos (hrange.mp h)]
    have hsum : (c.val + ('a'.val - 'A'.val)).toNat = (c.toNat + 32) % 2 ^ 32 :=
      UInt32.toNat_add _ _
    have hsmall : c.toNat ≤ 90 := (hrange.mp h).2
    exact hsum.trans (Nat.mod_eq_of_lt (by omega))
  · next h => rw [if_neg (mt hrange.mpr h)]

/-- What becomes a character that is no letter was that character before. -/
theorem eq_of_toLower (h : c.toLower = d) (hd : d.toNat < 97 ∨ 122 < d.toNat) : c = d := by
  have hn := toNat_toLower c
  rw [h] at hn
  refine Char.toNat_inj.mp ?_
  split at hn <;> omega

/-- Letters that are one in ASCII are one for the guard. -/
theorem plainLetter_of_toLower (h : c.toLower = d) (hd : d.toNat < 128) : plainLetter c = d := by
  have hn := toNat_toLower c
  rw [h] at hn
  have hsmall : c.toNat < 128 := by split at hn <;> omega
  simp only [plainLetter, Bool.or_eq_true, decide_eq_true_eq]
  rw [if_neg (by omega), if_neg (by omega), h]

theorem startsPlain_nil (s : List Char) : startsPlain [] s = true := by simp [startsPlain]

theorem startsPlain_cons : startsPlain (d :: word) (c :: s) = true ↔
    c.toLower = d ∧ startsPlain word s = true := by
  simp [startsPlain]

theorem startsPlain_cons_nil : startsPlain (d :: word) [] = false := by simp [startsPlain]

/-- A closing tag begins with the one character that no word has. -/
theorem startsPlain_closingStart : startsPlain closingStart (c :: s) = true ↔
    c = '<' ∧ startsPlain closingWord s = true := by
  rw [closingStart, startsPlain_cons]
  refine and_congr_left fun _ => ⟨fun h => eq_of_toLower h (by decide), ?_⟩
  rintro rfl
  decide

theorem startsPlain_of_append (h : startsPlain (word ++ t) s = true) : startsPlain word s = true := by
  induction word generalizing s with
  | nil => exact startsPlain_nil s
  | cons d word ih =>
    cases s with
    | nil => exact absurd h (by simp [startsPlain_cons_nil])
    | cons c s =>
      obtain ⟨hc, hrest⟩ := startsPlain_cons.mp h
      exact startsPlain_cons.mpr ⟨hc, ih hrest⟩

/-! ### Text in which no closing tag begins -/

/-- Whether no closing tag begins in a text, whatever follows it. -/
def Quiet (s : List Char) : Prop :=
  ∀ t, t <:+ s → t ≠ [] → ∀ rest, startsPlain closingStart (t ++ rest) = false

theorem quiet_nil : Quiet [] := fun _ ht hne => absurd (List.suffix_nil.mp ht) hne

theorem quiet_cons : Quiet (c :: s) ↔
    (∀ rest, startsPlain closingStart (c :: (s ++ rest)) = false) ∧ Quiet s := by
  constructor
  · intro h
    refine ⟨h (c :: s) (List.suffix_refl _) (List.cons_ne_nil c s), fun t ht hne => ?_⟩
    exact h t (ht.trans (List.suffix_cons c s)) hne
  · rintro ⟨hfirst, hrest⟩ t ht hne
    rcases List.suffix_cons_iff.mp ht with rfl | ht
    · exact hfirst
    · exact hrest t ht hne

theorem quiet_cons_of_ne (hc : c ≠ '<') : Quiet (c :: s) ↔ Quiet s := by
  refine quiet_cons.trans (and_iff_right fun rest => ?_)
  rw [Bool.eq_false_iff, Ne, startsPlain_closingStart]
  exact fun h => hc h.1

theorem quiet_of_not_mem (h : '<' ∉ s) : Quiet s := by
  induction s with
  | nil => exact quiet_nil
  | cons c s ih =>
    have hc : c ≠ '<' := fun heq => h (heq ▸ List.mem_cons_self)
    exact (quiet_cons_of_ne hc).mpr (ih fun hm => h (List.mem_cons_of_mem c hm))

theorem Quiet.append (hs : Quiet s) (ht : Quiet t) : Quiet (s ++ t) := by
  induction s with
  | nil => exact ht
  | cons c s ih =>
    obtain ⟨hfirst, hrest⟩ := quiet_cons.mp hs
    rw [List.cons_append, quiet_cons]
    refine ⟨fun rest => ?_, ih hrest⟩
    rw [List.append_assoc]
    exact hfirst (t ++ rest)

/-- A word of neither `<` nor a line break with which guarded text begins was there before. -/
theorem startsPlain_of_guardChars (htag : '<' ∉ word) (hline : '\n' ∉ word)
    (h : startsPlain word (guardChars s ++ '\n' :: r) = true) : startsPlain word s = true := by
  induction word generalizing s with
  | nil => exact startsPlain_nil s
  | cons d word ih =>
    obtain ⟨hd_tag, htag⟩ := List.ne_and_not_mem_of_not_mem_cons htag
    obtain ⟨hd_line, hline⟩ := List.ne_and_not_mem_of_not_mem_cons hline
    cases s with
    | nil =>
      obtain ⟨hd, -⟩ := startsPlain_cons.mp h
      exact absurd hd hd_line
    | cons c s =>
      rw [guardChars] at h
      split at h
      · obtain ⟨hd, -⟩ := startsPlain_cons.mp h
        exact absurd hd hd_tag
      · obtain ⟨hd, hrest⟩ := startsPlain_cons.mp h
        exact startsPlain_cons.mpr ⟨hd, ih htag hline hrest⟩

theorem closesScript_of_startsPlain (h : startsPlain closingWord s = true) :
    closesScript s = true := by
  have hmap : (s.take 7).map Char.toLower = closingWord := of_decide_eq_true h
  have hletters : (s.take 7).map plainLetter = (s.take 7).map Char.toLower := by
    refine List.map_congr_left fun c hc => ?_
    have hmem : c.toLower ∈ closingWord := hmap ▸ List.mem_map_of_mem hc
    have hsmall : closingWord.all (fun d => d.toNat < 128) = true := by decide
    exact plainLetter_of_toLower rfl (of_decide_eq_true (List.all_eq_true.mp hsmall _ hmem))
  exact decide_eq_true (hletters.trans hmap)

/-- No closing tag begins in guarded text before a line break. -/
theorem quiet_guardChars (s : List Char) : Quiet (guardChars s ++ ['\n']) := by
  induction s with
  | nil => exact quiet_of_not_mem (by decide)
  | cons c s ih =>
    rw [guardChars]
    split
    · -- the backslash stands where the tag would go on
      rw [List.cons_append, List.cons_append, quiet_cons, quiet_cons_of_ne (by decide)]
      refine ⟨fun rest => ?_, ih⟩
      rw [Bool.eq_false_iff, Ne, startsPlain_closingStart]
      rintro ⟨-, h⟩
      exact absurd (startsPlain_cons.mp h).1 (by decide)
    · next hguard =>
      rw [List.cons_append, quiet_cons]
      refine ⟨fun rest => ?_, ih⟩
      rw [Bool.eq_false_iff, Ne, startsPlain_closingStart, List.append_assoc]
      rintro ⟨hc, h⟩
      have hcloses := closesScript_of_startsPlain (startsPlain_of_guardChars (by decide) (by decide) h)
      exact hguard (by simp [hc, hcloses])

/-! ### Cutting -/

theorem cutFrom_skip (s r : List Char) : cutFrom s.length (s ++ r) = cutFrom 0 r := by
  induction s with
  | nil => rfl
  | cons c cs ih => exact ih

/-- The closing tag after a text in which none begins is where the text is cut. -/
theorem cutClosings_append (h : Quiet s) (r : List Char) :
    cutClosings (s ++ closingTag ++ r) = s :: cutClosings r := by
  rw [List.append_assoc]
  induction s with
  | nil =>
    have htag : [] ++ (closingTag ++ r) = '<' :: (closingTag.tail ++ r) := rfl
    have hstarts : startsPlain closingTag ('<' :: (closingTag.tail ++ r)) = true := rfl
    rw [htag, cutClosings, cutFrom, if_pos hstarts]
    exact congrArg ([] :: ·) (cutFrom_skip closingTag.tail r)
  | cons c s ih =>
    obtain ⟨hfirst, hrest⟩ := quiet_cons.mp h
    have hno : ¬startsPlain closingTag (c :: (s ++ (closingTag ++ r))) = true := by
      intro hstarts
      have hstart : startsPlain closingStart (c :: (s ++ (closingTag ++ r))) = true :=
        startsPlain_of_append hstarts
      rw [hfirst] at hstart
      cases hstart
    rw [List.cons_append, cutClosings, cutFrom, if_neg hno, ← cutClosings, ih hrest]
    rfl

theorem countP_append_of_quiet (h : Quiet s) (r : List Char) :
    (s ++ r).tails.countP (startsPlain closingStart) =
      r.tails.countP (startsPlain closingStart) := by
  induction s with
  | nil => rfl
  | cons c s ih =>
    obtain ⟨hfirst, hrest⟩ := quiet_cons.mp h
    rw [List.cons_append, List.tails_cons, List.countP_cons_of_neg (by rw [hfirst]; decide), ih hrest]

theorem countP_closingTag (r : List Char) :
    (closingTag ++ r).tails.countP (startsPlain closingStart) =
      r.tails.countP (startsPlain closingStart) + 1 := by
  have htag : closingTag ++ r = '<' :: (closingTag.tail ++ r) := rfl
  rw [htag, List.tails_cons, List.countP_cons_of_pos rfl,
    countP_append_of_quiet (quiet_of_not_mem (by decide))]

/-! ### The script block -/

/-- A section up to its closing tag. -/
def Section.opening (scripts : List (String × String)) (texts : ScriptTexts) (s : Section) :
    List Char :=
  ("<script>\n/* " ++ s.label ++ " */\n" ++ guardScript (s.content scripts texts) ++ "\n").toList

/-- Texts of which all but the first stand behind a line break. -/
def onLines : List (List Char) → List (List Char)
  | [] => []
  | o :: os => o :: os.map ('\n' :: ·)

variable {template : String} {scripts : List (String × String)} {texts : ScriptTexts}

theorem toList_element (x : Section) :
    (x.element scripts texts).toList = x.opening scripts texts ++ closingTag := by
  have hclosing : "\n</script>".toList = "\n".toList ++ closingTag := rfl
  simp only [Section.element, Section.opening, scriptElement, String.toList_append, hclosing,
    List.append_assoc]

theorem quiet_opening {x : Section} (hx : x ∈ Section.all) : Quiet (x.opening scripts texts) := by
  have hlabels : ∀ y ∈ Section.all, '<' ∉ y.label.toList := by decide
  have hheading : Quiet "<script>\n/* ".toList := by
    refine quiet_cons.mpr ⟨fun rest => ?_, quiet_of_not_mem (by decide)⟩
    rfl
  have hguarded : (guardScript (x.content scripts texts)).toList =
      guardChars (x.content scripts texts).toList := String.toList_ofList
  rw [Section.opening]
  simp only [String.toList_append, hguarded]
  rw [List.append_assoc]
  exact ((hheading.append (quiet_of_not_mem (hlabels x hx))).append
    (quiet_of_not_mem (by decide))).append (quiet_guardChars _)

theorem intercalate_line (o : List Char) (os : List (List Char)) :
    ['\n'].intercalate ((o :: os).map (· ++ closingTag)) =
      (onLines (o :: os)).flatMap (· ++ closingTag) := by
  rw [onLines, List.flatMap_cons]
  induction os generalizing o with
  | nil => simp
  | cons o' os ih =>
    have htail : ['\n'].intercalate ((o' ++ closingTag) :: os.map (· ++ closingTag)) =
        o' ++ closingTag ++ (os.map ('\n' :: ·)).flatMap (· ++ closingTag) := ih o'
    rw [List.map_cons, List.map_cons, List.intercalate_cons_cons, htail, List.map_cons,
      List.flatMap_cons]
    simp only [List.append_assoc, List.cons_append, List.nil_append]

/-- The beginnings of the sections of a page, each up to its closing tag. -/
def openings (template : String) (scripts : List (String × String)) (texts : ScriptTexts) :
    List (List Char) :=
  onLines ((Section.standing template scripts texts).map (Section.opening scripts texts))

theorem toList_scriptBlock (template : String) (scripts : List (String × String))
    (texts : ScriptTexts) :
    (scriptBlock template scripts texts).toList =
      (openings template scripts texts).flatMap (· ++ closingTag) := by
  have helements : (Section.standing template scripts texts).map
      (String.toList ∘ Section.element scripts texts) =
      ((Section.standing template scripts texts).map (Section.opening scripts texts)).map
        (· ++ closingTag) := by
    rw [List.map_map]
    exact List.map_congr_left fun x _ => toList_element x
  have hline : "\n".toList = ['\n'] := rfl
  rw [scriptBlock, Text.join, String.toList_intercalate, scriptElements_eq, List.map_map,
    helements, hline, openings]
  cases (Section.standing template scripts texts).map (Section.opening scripts texts) with
  | nil => rfl
  | cons o os => exact intercalate_line o os

theorem quiet_onLines {os : List (List Char)} (h : ∀ o ∈ os, Quiet o) : ∀ o ∈ onLines os, Quiet o := by
  cases os with
  | nil => exact h
  | cons o os =>
    obtain ⟨hfirst, hrest⟩ := List.forall_mem_cons.mp h
    refine List.forall_mem_cons.mpr ⟨hfirst, fun o' ho' => ?_⟩
    obtain ⟨o'', ho'', rfl⟩ := List.mem_map.mp ho'
    exact (quiet_cons_of_ne (by decide)).mpr (hrest o'' ho'')

theorem quiet_openings (template : String) (scripts : List (String × String)) (texts : ScriptTexts) :
    ∀ o ∈ openings template scripts texts, Quiet o := by
  refine quiet_onLines fun o ho => ?_
  obtain ⟨x, hx, rfl⟩ := List.mem_map.mp ho
  exact quiet_opening (List.mem_filter.mp hx).1

theorem length_openings (template : String) (scripts : List (String × String))
    (texts : ScriptTexts) :
    (openings template scripts texts).length =
      (Section.standing template scripts texts).length := by
  have honLines : ∀ os, (onLines os).length = os.length := by
    rintro (_ | ⟨o, os⟩)
    · rfl
    · simp [onLines]
  rw [openings, honLines, List.length_map]

theorem cutClosings_flatMap {os : List (List Char)} (h : ∀ o ∈ os, Quiet o) :
    cutClosings (os.flatMap (· ++ closingTag)) = os ++ [[]] := by
  induction os with
  | nil => rfl
  | cons o os ih =>
    obtain ⟨hfirst, hrest⟩ := List.forall_mem_cons.mp h
    rw [List.flatMap_cons, cutClosings_append hfirst, ih hrest, List.cons_append]

theorem countP_flatMap {os : List (List Char)} (h : ∀ o ∈ os, Quiet o) :
    (os.flatMap (· ++ closingTag)).tails.countP (startsPlain closingStart) = os.length := by
  induction os with
  | nil => rfl
  | cons o os ih =>
    obtain ⟨hfirst, hrest⟩ := List.forall_mem_cons.mp h
    rw [List.flatMap_cons, List.append_assoc, countP_append_of_quiet hfirst, countP_closingTag,
      ih hrest, List.length_cons]

/-- A script block is made of its sections, each with its own closing tag. No other closing tag begins
in it, and cut at its closing tags it gives the sections back. -/
theorem scriptBlock_closings (template : String) (scripts : List (String × String))
    (texts : ScriptTexts) :
    let block := (scriptBlock template scripts texts).toList
    let sections := openings template scripts texts
    block = sections.flatMap (· ++ closingTag) ∧
      block.tails.countP (startsPlain closingStart) =
        (Section.standing template scripts texts).length ∧
      cutClosings block = sections ++ [[]] := by
  have hquiet := quiet_openings template scripts texts
  refine ⟨toList_scriptBlock template scripts texts, ?_, ?_⟩
  · rw [toList_scriptBlock, countP_flatMap hquiet, length_openings]
  · rw [toList_scriptBlock, cutClosings_flatMap hquiet]

end Storybind.Page
