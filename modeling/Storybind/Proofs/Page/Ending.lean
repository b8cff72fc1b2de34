import Mathlib.Tactic
import Storybind.Proofs.Except
import Storybind.Proofs.Page.Data
import Storybind.Proofs.Page.ScriptReader

/-!
Where the script elements of a page end. No script and no data end their element before its own closing
tag; that tag ends it unless the text swallows closing tags, which only a text can that opens a comment
and leaves it open.
-/

namespace Storybind.Page

open ScriptState

/-- The tag that opens a script element. -/
def openingTag : List Char := "<script>".toList

/-- The text of a script element with a heading. -/
def scriptText (label content : String) : List Char :=
  ("\n/* " ++ label ++ " */\n" ++ guardScript content ++ "\n").toList

/-- What a reader makes of a script element with some text. The text alone does not end the element;
the closing tag behind it does, unless the text swallows it, and then the element goes on behind it as
after an open comment. -/
structure EndsUnlessSwallowed (text : List Char) : Prop where
  stays : run plain text ≠ closed
  ends : ¬Swallows text → ∀ rest, afterScript? plain (text ++ closingTag ++ rest) = some rest
  goesOn : Swallows text → ∀ rest,
    afterScript? plain (text ++ closingTag ++ rest) = afterScript? comment rest

variable {s : List Char}

theorem Unclosed.endsUnlessSwallowed (h : Unclosed s) : EndsUnlessSwallowed s := by
  have hread : ∀ rest, afterScript? plain (s ++ closingTag ++ rest) =
      if (run plain s).isNested then afterScript? comment rest else some rest := by
    intro rest
    rw [List.append_assoc, afterScript?_append h.run_ne_closed,
      afterScript?_closingTag h.run_ne_closed]
  refine ⟨h.run_ne_closed, fun hs rest => ?_, fun hs rest => ?_⟩
  · rw [hread, if_neg (mt (isNested_iff_swallows h).mp hs)]
  · rw [hread, if_pos ((isNested_iff_swallows h).mpr hs)]

theorem toList_scriptElement (label content : String) :
    (scriptElement label content).toList = openingTag ++ scriptText label content ++ closingTag := by
  have hopening : "<script>\n/* ".toList = openingTag ++ "\n/* ".toList := by decide
  have hclosing : "\n</script>".toList = "\n".toList ++ closingTag := by decide
  simp only [scriptElement, scriptText, String.toList_append, hopening, hclosing, List.append_assoc]

theorem unclosed_scriptText {label : String} (h : '<' ∉ label.toList) (content : String) :
    Unclosed (scriptText label content) := by
  have hguarded : (guardScript content).toList = guardChars content.toList := String.toList_ofList
  have hheading : '<' ∉ ("\n/* " ++ label ++ " */\n").toList := by
    simp only [String.toList_append, List.mem_append, not_or]
    exact ⟨⟨by decide, h⟩, by decide⟩
  have hquiet := (quiet_of_not_mem hheading).append (quiet_guardChars content.toList)
  rw [← hguarded, ← List.append_assoc] at hquiet
  rw [scriptText, String.toList_append, String.toList_append]
  exact hquiet.unclosed

theorem unclosed_of_not_hasPair (h : ¬Text.HasPair '<' '/' s) : Unclosed s := by
  intro hclosing
  have hpair : ['<', '/'] <:+: s.map Char.toLower :=
    List.IsInfix.trans ⟨[], scriptWord, rfl⟩ hclosing
  obtain ⟨u, v, huv⟩ := hpair
  obtain ⟨w, z, rfl, hw, -⟩ := List.map_eq_append_iff.mp huv.symm
  obtain ⟨x, y, rfl, -, hy⟩ := List.map_eq_append_iff.mp hw
  have hmarks : ∀ c ∈ ['<', '/'], c.toNat < 97 ∨ 122 < c.toNat := by simp
  obtain rfl : y = ['<', '/'] := eq_of_map_toLower hy hmarks
  exact h ⟨x, z, rfl⟩

theorem unclosed_dataScript {c : Content} {data : String} (h : c.dataScript = .ok data)
    {before after : List Char} (hbefore : '<' ∉ before) (hafter : '<' ∉ after) :
    Unclosed (before ++ data.toList ++ after) := by
  obtain ⟨json, -, rfl⟩ := Except.map_eq_ok.mp h
  have hstart : '<' ∉ before ++ "window.VN_RUNTIME_DATA = ".toList := by
    rw [List.mem_append, not_or]
    exact ⟨hbefore, by decide⟩
  have hend : '<' ∉ ";".toList ++ after := by
    rw [List.mem_append, not_or]
    exact ⟨by decide, hafter⟩
  have hsplit : before ++ ("window.VN_RUNTIME_DATA = " ++ guardData json ++ ";").toList ++ after =
      before ++ "window.VN_RUNTIME_DATA = ".toList ++ ((guardData json).toList ++ (";".toList ++ after)) := by
    simp only [String.toList_append, List.append_assoc]
  apply unclosed_of_not_hasPair
  rw [hsplit, Text.hasPair_append hstart, Text.hasPair_append_of_head? hend (by simp)]
  exact (not_hasPair_guardData json).1

/-- The script elements of a page end at their own closing tags, and so does an element that holds the
data, except after a text that swallows closing tags: that one is read past its closing tag. -/
theorem ends_unless_swallowed {before after : List Char} (hbefore : '<' ∉ before)
    (hafter : '<' ∉ after) :
    (∀ x ∈ Section.all, ∀ content : String,
      (scriptElement x.label content).toList =
        openingTag ++ scriptText x.label content ++ closingTag ∧
      EndsUnlessSwallowed (scriptText x.label content)) ∧
    ∀ (c : Content) (data : String), c.dataScript = .ok data →
      EndsUnlessSwallowed (before ++ data.toList ++ after) := by
  have hlabels : ∀ x ∈ Section.all, '<' ∉ x.label.toList := by decide
  refine ⟨fun x hx content => ⟨toList_scriptElement _ _, ?_⟩, ?_⟩
  · exact (unclosed_scriptText (hlabels x hx) content).endsUnlessSwallowed
  · intro c data h
    exact (unclosed_dataScript h hbefore hafter).endsUnlessSwallowed

/-- A page whose script opens a comment and a script in it. -/
def Content.commented : Content := { Content.tale with script := "<!--<script>", scenes := [] }

theorem exists_dataScript {c : Content} {t : List Char}
    (h : Json.value ⟨false, if c.minify then none else some 2⟩ [] c.data = .ok t) :
    ∃ data, c.dataScript = .ok data ∧ data.toList = "window.VN_RUNTIME_DATA = ".toList ++
      Text.replacePair '\x7b' '\x7b' "\x7b\\u007b".toList (Text.replacePair '<' '/' "<\\/".toList t) ++
        ";".toList := by
  have ht : (String.ofList t).toList = t := String.toList_ofList
  refine ⟨"window.VN_RUNTIME_DATA = " ++ guardData (String.ofList t) ++ ";", ?_, ?_⟩
  · rw [Content.dataScript, Json.write, h]
    rfl
  · rw [String.toList_append, String.toList_append, toList_guardData, ht]

theorem dataScript_commented :
    ∃ data, Content.commented.dataScript = .ok data ∧
      afterScript? plain ("\n".toList ++ data.toList ++ "\n  ".toList ++ closingTag ++ "\n</body>".toList) =
        none := by
  -- lists of characters are read here, since texts are slow to take apart
  have hread : (Json.value ⟨false, some 2⟩ [] Content.commented.data).toOption.any (fun t =>
      afterScript? plain ("\n".toList ++ ("window.VN_RUNTIME_DATA = ".toList ++
        Text.replacePair '\x7b' '\x7b' "\x7b\\u007b".toList (Text.replacePair '<' '/' "<\\/".toList t) ++
          ";".toList) ++ "\n  ".toList ++ closingTag ++ "\n</body>".toList) = none) = true := by
    decide +kernel
  cases hwritten : Json.value ⟨false, some 2⟩ [] Content.commented.data with
  | error e =>
    rw [hwritten] at hread
    cases hread
  | ok t =>
    rw [hwritten] at hread
    obtain ⟨data, hdata, hchars⟩ := exists_dataScript hwritten
    refine ⟨data, hdata, ?_⟩
    rw [hchars]
    exact of_decide_eq_true hread

theorem ends_unless_swallowed_commented : ∃ data, Content.commented.dataScript = .ok data ∧
    '<' ∉ "\n".toList ∧ '<' ∉ "\n  ".toList ∧ Section.custom ∈ Section.all ∧
    EndsUnlessSwallowed (scriptText Section.custom.label "<!--") ∧
    EndsUnlessSwallowed ("\n".toList ++ data.toList ++ "\n  ".toList) := by
  obtain ⟨data, hdata, -⟩ := dataScript_commented
  have hbefore : '<' ∉ "\n".toList := by decide
  have hafter : '<' ∉ "\n  ".toList := by decide
  have hends := ends_unless_swallowed hbefore hafter
  refine ⟨data, hdata, hbefore, hafter, by decide, ?_, ?_⟩
  · exact (hends.1 .custom (by decide) "<!--").2
  · exact hends.2 _ data hdata

/-- Neither a script nor the data of a page need end at the closing tag of its element. -/
theorem not_ends_commented :
    ¬((∀ x ∈ Section.all, ∀ content rest, afterScript? plain
        (scriptText x.label content ++ closingTag ++ rest) = some rest)) ∧
    ¬∀ (c : Content) (data : String), c.dataScript = .ok data → ∀ rest, afterScript? plain
        ("\n".toList ++ data.toList ++ "\n  ".toList ++ closingTag ++ rest) = some rest := by
  constructor
  · intro h
    have hread := h .custom (by decide) "<!--<script>" []
    revert hread
    decide +kernel
  · intro h
    obtain ⟨data, hdata, hnone⟩ := dataScript_commented
    rw [h _ data hdata] at hnone
    cases hnone

end Storybind.Page
