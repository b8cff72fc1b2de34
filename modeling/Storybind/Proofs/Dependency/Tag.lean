import Mathlib.Tactic
import Storybind.Dependency.Tag
import Storybind.Proofs.Dependency.Valid
import Storybind.Proofs.Page.Closing
import Storybind.Proofs.Text.MarkupReader

/-!
Closing tags in the markup that loads a library. Where a closing tag of a script begins in it is
counted line by line: the markup holds its own closing tag, and those that stand in the condition and
in the address of a library that is loaded on a condition. All other fields are escaped or checked.
-/

namespace Storybind

namespace Page

/-- How many closing tags of scripts begin in a text. -/
def closings (s : List Char) : Nat := s.tails.countP (startsPlain closingStart)

variable {c : Char} {s t word : List Char}

theorem closings_cons (c : Char) (s : List Char) :
    closings (c :: s) = closings s + if startsPlain closingStart (c :: s) then 1 else 0 := by
  rw [closings, closings, List.tails_cons, List.countP_cons]

theorem closings_append_of_quiet (h : Quiet s) (t : List Char) : closings (s ++ t) = closings t :=
  countP_append_of_quiet h t

theorem closings_of_not_mem (h : '<' ∉ s) : closings s = 0 := by
  have hs := closings_append_of_quiet (quiet_of_not_mem h) []
  rwa [List.append_nil] at hs

theorem startsPlain_append_of_not_mem (hc : c.toLower ∉ word) :
    startsPlain word (s ++ c :: t) = startsPlain word s := by
  -- a word that begins in the first part would have to go on with the character
  induction word generalizing s with
  | nil => rw [startsPlain_nil, startsPlain_nil]
  | cons d word ih =>
    obtain ⟨hd, hword⟩ := List.ne_and_not_mem_of_not_mem_cons hc
    cases s with
    | nil =>
      rw [startsPlain_cons_nil, List.nil_append, Bool.eq_false_iff, Ne, startsPlain_cons]
      exact fun h => hd h.1
    | cons x s => rw [Bool.eq_iff_iff, List.cons_append, startsPlain_cons, startsPlain_cons, ih hword]

theorem closings_append_of_not_mem (hc : c.toLower ∉ closingStart) :
    closings (s ++ c :: t) = closings s + closings (c :: t) := by
  induction s with
  | nil =>
    have hnil : closings [] = 0 := closings_of_not_mem List.not_mem_nil
    rw [hnil, List.nil_append, Nat.zero_add]
  | cons x s ih =>
    have hstart : startsPlain closingStart (x :: (s ++ c :: t)) = startsPlain closingStart (x :: s) :=
      startsPlain_append_of_not_mem (s := x :: s) hc
    rw [List.cons_append, closings_cons, closings_cons, ih, hstart]
    omega

theorem closings_join (lines : List String) :
    closings (Text.join "\n" lines).toList = (lines.map fun l => closings l.toList).sum := by
  have hline : "\n".toList = ['\n'] := rfl
  -- no closing tag goes over the end of a line
  rw [Text.join, String.toList_intercalate, hline]
  induction lines with
  | nil => rfl
  | cons l lines ih =>
    cases lines with
    | nil => simp
    | cons m lines =>
      have hbreak : closings ('\n' :: ['\n'].intercalate ((m :: lines).map String.toList)) =
          closings (['\n'].intercalate ((m :: lines).map String.toList)) :=
        closings_append_of_quiet (s := ['\n']) (quiet_of_not_mem (by decide)) _
      rw [List.map_cons, List.map_cons, List.intercalate_cons_cons, List.append_assoc,
        List.singleton_append, closings_append_of_not_mem (by decide), ← List.map_cons, hbreak, ih,
        List.map_cons, List.map_cons, List.sum_cons]
      rfl

end Page

namespace Text

theorem not_mem_append {c : Char} {a b : String} (ha : c ∉ a.toList) (hb : c ∉ b.toList) :
    c ∉ (a ++ b).toList := by
  rw [String.toList_append, List.mem_append, not_or]
  exact ⟨ha, hb⟩

end Text

namespace Json

open Page

theorem not_mem_closingStart {c : Char} (h : c.toNat < 47 ∨ c.toNat = 92 ∨ 122 < c.toNat) :
    c.toLower ∉ closingStart := by
  intro hmem
  have hmarks : ∀ d ∈ closingStart, d.toNat = 47 ∨ d.toNat = 60 ∨ 97 ≤ d.toNat ∧ d.toNat ≤ 122 := by
    simp [closingStart, closingWord]
  have hn := toNat_toLower c
  have hd := hmarks _ hmem
  split at hn <;> omega

theorem not_mem_hexPad (width n : Nat) : '<' ∉ Text.hexPad width n := by
  induction width generalizing n with
  | zero => exact List.not_mem_nil
  | succ width ih =>
    rw [Text.hexPad, List.mem_append, List.mem_singleton, not_or]
    refine ⟨ih _, fun hdigit => ?_⟩
    have hall : ∀ d < 16, Text.hexDigit d ≠ '<' := by decide
    exact hall (n % 16) (Nat.mod_lt n (by decide)) hdigit.symm

theorem not_mem_unitEscape (n : Nat) : '<' ∉ unitEscape n := by
  simp only [unitEscape, List.mem_cons, not_or]
  exact ⟨by decide, by decide, not_mem_hexPad 4 n⟩

/-- A character is written as itself, or it is none that a closing tag has and a backslash stands for
it. -/
theorem escapeChar_cases (c : Char) : escapeChar true c = [c] ∨
    c.toLower ∉ closingStart ∧ '<' ∉ escapeChar true c ∧ (escapeChar true c).head? = some '\\' := by
  unfold escapeChar
  simp only [Bool.true_and, decide_eq_true_eq]
  split_ifs with hquote hslash hline hreturn htab hback hfeed hcontrol hascii hplane
  · exact .inr ⟨by rw [hquote]; decide, by decide, rfl⟩
  · exact .inr ⟨by rw [hslash]; decide, by decide, rfl⟩
  · exact .inr ⟨by rw [hline]; decide, by decide, rfl⟩
  · exact .inr ⟨by rw [hreturn]; decide, by decide, rfl⟩
  · exact .inr ⟨by rw [htab]; decide, by decide, rfl⟩
  · exact .inr ⟨not_mem_closingStart (by omega), by decide, rfl⟩
  · exact .inr ⟨not_mem_closingStart (by omega), by decide, rfl⟩
  · exact .inr ⟨not_mem_closingStart (by omega), not_mem_unitEscape _, rfl⟩
  · exact .inr ⟨not_mem_closingStart (by omega), not_mem_unitEscape _, rfl⟩
  · refine .inr ⟨not_mem_closingStart (by omega), ?_, rfl⟩
    rw [List.mem_append, not_or]
    exact ⟨not_mem_unitEscape _, not_mem_unitEscape _⟩
  · exact .inl rfl

theorem startsPlain_escaped {word : List Char} (hword : word <:+ closingStart) (s t : List Char) :
    startsPlain word (s.flatMap (escapeChar true) ++ '\x22' :: t) = startsPlain word s := by
  -- along the word, since what is left of it is still part of a closing tag
  induction word generalizing s with
  | nil => rw [startsPlain_nil, startsPlain_nil]
  | cons d word ih =>
    have hd : d ∈ closingStart := hword.subset List.mem_cons_self
    have hrest := ih ((List.suffix_cons d word).trans hword)
    cases s with
    | nil =>
      rw [startsPlain_cons_nil, Bool.eq_false_iff, Ne, List.flatMap_nil, List.nil_append,
        startsPlain_cons]
      rintro ⟨rfl, -⟩
      exact absurd hd (by decide)
    | cons c s =>
      rw [List.flatMap_cons, List.append_assoc]
      rcases escapeChar_cases c with hplain | ⟨hc, -, hhead⟩
      · rw [hplain, List.singleton_append, Bool.eq_iff_iff, startsPlain_cons, startsPlain_cons, hrest]
      · -- the backslash is not what the word goes on with, and neither is the character
        obtain ⟨u, hescaped⟩ := List.head?_eq_some_iff.mp hhead
        rw [hescaped, Bool.eq_iff_iff, List.cons_append, startsPlain_cons, startsPlain_cons]
        refine iff_of_false ?_ ?_
        · rintro ⟨rfl, -⟩
          exact absurd hd (by decide)
        · rintro ⟨rfl, -⟩
          exact hc hd

theorem closings_string (s : String) : closings (string true s) = closings s.toList := by
  have hbody : ∀ cs : List Char, closings (cs.flatMap (escapeChar true) ++ ['\x22']) = closings cs := by
    intro cs
    induction cs with
    | nil => rfl
    | cons c cs ih =>
      have hstart := startsPlain_escaped (List.suffix_refl closingStart) (c :: cs) []
      rw [List.flatMap_cons, List.append_assoc] at hstart ⊢
      rcases escapeChar_cases c with hplain | ⟨hc, hless, -⟩
      · rw [hplain, List.singleton_append] at hstart ⊢
        rw [closings_cons, closings_cons, ih, hstart]
      · have hnone : startsPlain closingStart (c :: cs) = false := by
          rw [Bool.eq_false_iff, Ne, closingStart, startsPlain_cons]
          rintro ⟨hless, -⟩
          exact hc (hless ▸ List.mem_cons_self)
        rw [closings_append_of_quiet (quiet_of_not_mem hless), ih, closings_cons, hnone]
        rfl
  have hquote : Quiet ['\x22'] := quiet_of_not_mem (by decide)
  rw [string, List.cons_append]
  exact (closings_append_of_quiet hquote _).trans (hbody s.toList)

end Json

namespace Attribute

theorem not_mem_render {a : Attribute} (h : '<' ∉ a.name.toList) : '<' ∉ a.render.toList := by
  cases a with
  | valued name value =>
    have hname : '<' ∉ (" " ++ name ++ "=\x22").toList :=
      Text.not_mem_append (Text.not_mem_append (by decide) h) (by decide)
    exact Text.not_mem_append (Text.not_mem_append hname (Markup.not_mem_escaped (by decide) value)) (by decide)
  | flag name => exact Text.not_mem_append (by decide) h

theorem name_ofFilled {a : Attribute} {name : String} {value : Option String}
    (h : a ∈ ofFilled name value) : a.name = name := by
  unfold ofFilled at h
  split at h
  · cases h
  · split at h
    · cases h
    · rw [List.mem_singleton.mp h]
      rfl

theorem name_flagIf {a : Attribute} {condition : Bool} {name : String}
    (h : a ∈ flagIf condition name) : a.name = name := by
  unfold flagIf at h
  split at h
  · rw [List.mem_singleton.mp h]
    rfl
  · cases h

end Attribute

namespace Declaration

open Page Json

variable {d : Declaration}

/-- The names of the attributes that an element can have. -/
def attributeNames : List String :=
  ["rel", "href", "integrity", "crossorigin", "src", "defer", "async", "type", "nomodule"]

theorem name_mem_attributeNames {a : Attribute} (ha : a ∈ d.element.attributes) :
    a.name ∈ attributeNames := by
  have hsafety : ∀ b ∈ d.safetyAttributes, b.name ∈ attributeNames := by
    intro b hb
    rcases List.mem_append.mp hb with h | h
    · rw [Attribute.name_ofFilled h]
      decide
    · split at h
      · rw [List.mem_singleton.mp h]
        simp [Attribute.name, attributeNames]
      · cases h
  unfold element at ha
  split at ha
  · rcases List.mem_append.mp ha with h | h
    · simp only [List.mem_cons, List.not_mem_nil, or_false] at h
      rcases h with rfl | rfl <;> simp [Attribute.name, attributeNames]
    · exact hsafety a h
  · simp only [List.mem_append, List.mem_singleton] at ha
    rcases ha with ((((rfl | h) | h) | h) | h) | h
    · simp [Attribute.name, attributeNames]
    · exact hsafety a h
    · rw [Attribute.name_flagIf h]
      decide
    · rw [Attribute.name_flagIf h]
      decide
    · split at h
      · rw [List.mem_singleton.mp h]
        decide
      · cases h
    · rw [Attribute.name_flagIf h]
      decide

theorem quiet_openingTag (d : Declaration) : Quiet d.element.openingTag.toList := by
  -- the first character of the tag is the only one that begins a tag
  have hattributes : '<' ∉ (String.join (d.element.attributes.map Attribute.render)).toList := by
    rw [String.toList_join, List.mem_flatMap]
    rintro ⟨text, hmem, hless⟩
    obtain ⟨a, ha, rfl⟩ := List.mem_map.mp hmem
    have hnames : ∀ name ∈ attributeNames, '<' ∉ name.toList := by decide
    exact Attribute.not_mem_render (hnames _ (name_mem_attributeNames ha)) hless
  have hname : Quiet ("<" ++ d.element.name).toList := by
    have hcases : d.element.name = "link" ∨ d.element.name = "script" := by
      unfold element
      split
      · exact .inl rfl
      · exact .inr rfl
    rcases hcases with h | h <;> rw [h] <;>
      exact quiet_cons.mpr ⟨fun rest => rfl, quiet_of_not_mem (by decide)⟩
  rw [Element.openingTag, String.toList_append, String.toList_append]
  exact (hname.append (quiet_of_not_mem hattributes)).append (quiet_of_not_mem (by decide))

theorem closings_render_element (d : Declaration) :
    closings d.element.render.toList = if d.format = .script then 1 else 0 := by
  have htag := quiet_openingTag d
  cases hformat : d.format with
  | stylesheet =>
    have hrender : d.element.render = d.element.openingTag := by simp [Element.render, element, hformat]
    have hcount := closings_append_of_quiet htag []
    rw [List.append_nil] at hcount
    rw [hrender, hcount]
    rfl
  | script =>
    have hrender : d.element.render.toList = d.element.openingTag.toList ++ closingTag := by
      have hclosing : "</script>".toList = closingTag := by decide
      rw [← hclosing]
      simp [Element.render, element, hformat]
    rw [hrender, closings_append_of_quiet htag]
    rfl

/-! ### The script that loads a library on a condition -/

/-- How many closing tags begin in some lines. -/
def lineClosings (lines : List String) : Nat := (lines.map fun l => closings l.toList).sum

theorem lineClosings_append (a b : List String) :
    lineClosings (a ++ b) = lineClosings a + lineClosings b := by
  rw [lineClosings, List.map_append, List.sum_append]
  rfl

theorem lineClosings_parts {a b c e f : List String} {m n : Nat} (ha : lineClosings a = m)
    (hb : lineClosings b = n) (hc : lineClosings c = 0) (he : lineClosings e = 0)
    (hf : lineClosings f = 1) : lineClosings (a ++ b ++ c ++ e ++ f) = m + n + 1 := by
  simp only [lineClosings_append, ha, hb, hc, he, hf, Nat.add_zero]

theorem lineClosings_singleton (l : String) : lineClosings [l] = closings l.toList := rfl

theorem lineClosings_textIf {condition : Bool} {s : String} (h : closings s.toList = 0) :
    lineClosings (textIf condition s) = 0 := by
  unfold textIf
  split
  · exact h
  · rfl

theorem closings_setting {front : String} (h : '<' ∉ front.toList) (s : String) :
    closings (front ++ literal s ++ ";").toList = closings s.toList := by
  have hliteral : (literal s).toList = string true s := String.toList_ofList
  have hend : (";" : String).toList = [';'] := rfl
  calc closings (front ++ literal s ++ ";").toList
      = closings (front.toList ++ (string true s ++ [';'])) := by
        rw [String.toList_append, String.toList_append, List.append_assoc, hliteral, hend]
    _ = closings (string true s ++ [';']) := closings_append_of_quiet (quiet_of_not_mem h) _
    _ = closings (string true s) + closings [';'] := closings_append_of_not_mem (by decide)
    _ = closings s.toList := by
        rw [closings_string]
        rfl

theorem not_mem_of_isIntegrity {value : String} (h : isIntegrity value) : '<' ∉ value.toList := by
  intro hless
  rcases mem_of_isIntegrity h hless with hdigest | heq | heq
  · exact absurd hdigest (by decide)
  · exact absurd heq (by decide)
  · exact absurd heq (by decide)

/-! The parts of the script, `v` being the variable for the new element. -/

section

variable {v : String} (hv : '<' ∉ v.toList)

include hv

theorem lineClosings_head (name condition : String) :
    lineClosings ["<!-- Load " ++ Text.escapeMarkup name ++ " conditionally -->", "<script>",
      "if (" ++ condition ++ ") \x7b", "  var " ++ v ++ " = document.createElement('" ++ v ++ "');"] =
      closings condition.toList := by
  have hcomment :
      closings ("<!-- Load " ++ Text.escapeMarkup name ++ " conditionally -->").toList = 0 := by
    have hfront : Quiet "<!-- Load ".toList :=
      quiet_cons.mpr ⟨fun rest => rfl, quiet_of_not_mem (by decide)⟩
    rw [String.toList_append, String.toList_append, List.append_assoc,
      closings_append_of_quiet hfront,
      closings_append_of_quiet (quiet_of_not_mem (Markup.not_mem_escaped (by decide) name))]
    exact closings_of_not_mem (by decide)
  -- only the condition is written as it was given, so all the closings are its own
  have hcondition : closings ("if (" ++ condition ++ ") \x7b").toList = closings condition.toList := by
    have hend : ") \x7b".toList = ')' :: " \x7b".toList := by decide
    have hnone : closings (')' :: " \x7b".toList) = 0 := closings_of_not_mem (by decide)
    rw [String.toList_append, String.toList_append, List.append_assoc,
      closings_append_of_quiet (quiet_of_not_mem (by decide)), hend,
      closings_append_of_not_mem (by decide), hnone, Nat.add_zero]
  have hvariable :
      closings ("  var " ++ v ++ " = document.createElement('" ++ v ++ "');").toList = 0 := by
    have hfirst : '<' ∉ ("  var " ++ v ++ " = document.createElement('").toList :=
      Text.not_mem_append (Text.not_mem_append (by decide) hv) (by decide)
    exact closings_of_not_mem (Text.not_mem_append (Text.not_mem_append hfirst hv) (by decide))
  have hopening : closings "<script>".toList = 0 := by decide
  simp only [lineClosings, List.map_cons, List.map_nil, List.sum_cons, List.sum_nil, hcomment,
    hopening, hcondition, hvariable]
  omega

theorem lineClosings_integrity (hd : d.IsValid) :
    lineClosings (match d.integrity with
      | some value => textIf (!value.isEmpty) ("  " ++ v ++ ".integrity = " ++ literal value ++ ";")
      | none => []) = 0 := by
  have hfront : '<' ∉ ("  " ++ v ++ ".integrity = ").toList :=
    Text.not_mem_append (Text.not_mem_append (by decide) hv) (by decide)
  split
  · next value hvalue =>
    apply lineClosings_textIf
    rw [closings_setting hfront]
    exact closings_of_not_mem (not_mem_of_isIntegrity (hd.integrity value hvalue))
  · rfl

theorem lineClosings_crossorigin (d : Declaration) :
    lineClosings (match d.crossorigin with
      | some c => ["  " ++ v ++ ".crossOrigin = " ++ literal c.word ++ ";"]
      | none => []) = 0 := by
  have hfront : '<' ∉ ("  " ++ v ++ ".crossOrigin = ").toList :=
    Text.not_mem_append (Text.not_mem_append (by decide) hv) (by decide)
  split
  · next c _ =>
    rw [lineClosings_singleton, closings_setting hfront]
    cases c <;> exact closings_of_not_mem (by decide)
  · rfl

theorem lineClosings_end : lineClosings
    ["  document.head.appendChild(" ++ v ++ ");", "\x7d", "</script>"] = 1 := by
  have hadd : closings ("  document.head.appendChild(" ++ v ++ ");").toList = 0 :=
    closings_of_not_mem (Text.not_mem_append (Text.not_mem_append (by decide) hv) (by decide))
  have hbrace : closings "\x7d".toList = 0 := by decide
  have hclosing : closings "</script>".toList = 1 := by decide
  simp only [lineClosings, List.map_cons, List.map_nil, List.sum_cons, List.sum_nil, hadd, hbrace,
    hclosing]
  omega

end

theorem closings_address {front : String} (h : '<' ∉ front.toList) (url : Option String) :
    closings (front ++ (match url with | some u => literal u | none => "null") ++ ";").toList =
      closings (url.getD "").toList := by
  cases url with
  | some u => exact closings_setting h u
  | none =>
    exact closings_of_not_mem (Text.not_mem_append (Text.not_mem_append h (by decide)) (by decide))

theorem lineClosings_body (d : Declaration) :
    let url := match d.url with
      | some u => literal u
      | none => "null"
    lineClosings (match d.format with
      | .stylesheet => ["  link.rel = 'stylesheet';", "  link.href = " ++ url ++ ";"]
      | .script =>
        ["  script.src = " ++ url ++ ";"] ++ textIf d.defer "  script.defer = true;" ++
          textIf d.async "  script.async = true;" ++ textIf d.isModule "  script.type = 'module';" ++
          textIf d.noModule "  script.noModule = true;") = closings (d.url.getD "").toList := by
  intro url
  cases d.format with
  | stylesheet =>
    have hrel : closings "  link.rel = 'stylesheet';".toList = 0 := by decide
    have haddress : closings ("  link.href = " ++ url ++ ";").toList = closings (d.url.getD "").toList :=
      closings_address (by decide) d.url
    simp only [lineClosings, List.map_cons, List.map_nil, List.sum_cons, List.sum_nil, hrel]
    omega
  | script =>
    have haddress : closings ("  script.src = " ++ url ++ ";").toList = closings (d.url.getD "").toList :=
      closings_address (by decide) d.url
    simp only [lineClosings_append, lineClosings_singleton]
    rw [lineClosings_textIf (by decide), lineClosings_textIf (by decide),
      lineClosings_textIf (by decide), lineClosings_textIf (by decide)]
    exact haddress

theorem closings_guarded (hd : d.IsValid) (condition : String) :
    closings (d.guarded condition).toList =
      closings condition.toList + closings (d.url.getD "").toList + 1 := by
  have hvariable : '<' ∉ (match d.format with
      | .stylesheet => "link"
      | .script => "script" : String).toList := by
    split <;> decide
  rw [guarded, closings_join]
  exact lineClosings_parts (lineClosings_head hvariable d.name condition) (lineClosings_body d)
    (lineClosings_integrity hvariable hd) (lineClosings_crossorigin hvariable d)
    (lineClosings_end hvariable)

/-! ### The markup of a library -/

/-- The condition on which a library is loaded. An empty one is none. -/
def guard? (d : Declaration) : Option String := d.condition.filter (!·.isEmpty)

theorem tag_eq (d : Declaration) :
    d.tag = match d.guard? with
      | some c => d.guarded c
      | none => d.element.render := by
  rw [tag, guard?]
  cases d.condition with
  | none => rfl
  | some c => cases hc : c.isEmpty <;> simp [Option.filter, hc]

theorem suffix_join (last : String) (lines : List String) :
    last.toList <:+ (Text.join "\n" (lines ++ [last])).toList := by
  rw [Text.join, String.toList_intercalate, List.map_append, List.map_singleton]
  induction lines with
  | nil => simp
  | cons l lines ih =>
    have hne : lines.map String.toList ++ [last.toList] ≠ [] := by simp
    rw [List.map_cons, List.cons_append, List.intercalate_cons_of_ne_nil hne]
    exact ih.trans (List.suffix_append _ _)

theorem suffix_guarded (condition : String) (d : Declaration) :
    closingTag <:+ (d.guarded condition).toList := by
  have hclosing : "</script>".toList = closingTag := by decide
  rw [← hclosing, guarded]
  -- the closing tag stands on a line of its own
  have hlines : ∀ (lines : List String) (a b : String),
      Text.join "\n" (lines ++ [a, b, "</script>"]) = Text.join "\n" (lines ++ [a, b] ++ ["</script>"]) := by
    intro lines a b
    rw [List.append_assoc]
    rfl
  rw [hlines]
  exact suffix_join _ _

theorem suffix_render_element (h : d.format = .script) : closingTag <:+ d.element.render.toList := by
  have hclosing : "</script>".toList = closingTag := by decide
  rw [← hclosing]
  simp [Element.render, element, h]

/-- Whether the markup of a library holds no closing tag but its own, and its own where it is a
script element. -/
structure ClosesItself (d : Declaration) : Prop where
  closings_eq : closings d.tag.toList = if d.guard? ≠ none ∨ d.format = .script then 1 else 0
  ends : d.guard? ≠ none ∨ d.format = .script → closingTag <:+ d.tag.toList

/-- The markup of a valid declaration closes nothing but itself, except that a library that is loaded
on a condition brings the closing tags of its condition and of its address into the script. -/
theorem closesItself_unless_guarded (hd : d.IsValid) :
    (d.guard? = none → d.ClosesItself) ∧
    ∀ c, d.guard? = some c →
      closingTag <:+ d.tag.toList ∧
      closings d.tag.toList = closings c.toList + closings (d.url.getD "").toList + 1 ∧
      (d.ClosesItself ↔ closings c.toList = 0 ∧ closings (d.url.getD "").toList = 0) := by
  have htag := tag_eq d
  constructor
  · intro hnone
    rw [hnone] at htag
    constructor
    · simp only [htag, closings_render_element, hnone, ne_eq, not_true_eq_false, false_or]
    · intro h
      have hformat : d.format = .script := h.resolve_left (fun hne => hne hnone)
      rw [htag]
      exact suffix_render_element hformat
  · intro c hsome
    have hguarded : d.guard? ≠ none ∨ d.format = .script := .inl (by rw [hsome]; exact nofun)
    rw [hsome] at htag
    have hends : closingTag <:+ d.tag.toList := by
      rw [htag]
      exact suffix_guarded c d
    have hcount : closings d.tag.toList = closings c.toList + closings (d.url.getD "").toList + 1 := by
      rw [htag]
      exact closings_guarded hd c
    refine ⟨hends, hcount, fun h => ?_, fun ⟨hc, hurl⟩ => ⟨?_, fun _ => hends⟩⟩
    · have hone := h.closings_eq
      rw [if_pos hguarded] at hone
      omega
    · rw [if_pos hguarded]
      omega

/-- A library whose condition and address hold closing tags. -/
def leaky : Declaration where
  name := "x"
  kind := .remote
  url := some "https://cdn.example/</script>.js"
  version := none
  integrity := none
  priority := 50
  defer := false
  async := false
  isModule := false
  noModule := false
  crossorigin := none
  condition := some "a</SCRIPT>b"
  format := .script
  content := none
  minify := none

theorem isValid_leaky : leaky.IsValid where
  complete := by decide +kernel
  priority := by decide
  integrity := nofun

theorem closesItself_unless_guarded_leaky : leaky.IsValid ∧
    (∃ c, leaky.guard? = some c ∧ closings leaky.tag.toList = 3) ∧
    { leaky with condition := none }.ClosesItself := by
  have hplain : { leaky with condition := none }.IsValid :=
    ⟨by decide +kernel, by decide, nofun⟩
  have hguard : leaky.guard? = some "a</SCRIPT>b" := by decide +kernel
  refine ⟨isValid_leaky, ⟨_, hguard, ?_⟩, ?_⟩
  · exact ((closesItself_unless_guarded isValid_leaky).2 _ hguard).2.1
  · exact (closesItself_unless_guarded hplain).1 rfl

/-- A condition or an address can close the script that loads a library. -/
theorem not_closesItself_leaky :
    ¬∀ d : Declaration, d.IsValid → d.kind = .remote → d.ClosesItself := by
  intro h
  have hone := (h leaky isValid_leaky rfl).closings_eq
  have hthree := closings_guarded isValid_leaky "a</SCRIPT>b"
  have htag : leaky.tag = leaky.guarded "a</SCRIPT>b" := by decide +kernel
  rw [htag, hthree] at hone
  revert hone
  decide +kernel

end Declaration

end Storybind
