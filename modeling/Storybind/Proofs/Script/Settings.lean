import Mathlib.Tactic
import Storybind.Proofs.Except
import Storybind.Proofs.Json.Reading
import Storybind.Proofs.Text.Pieces
import Storybind.Proofs.Text.Trim
import Storybind.Script.Directive

/-!
Settings of an instance, as they are written in a directive and as they are read from it. A setting
is a truth value, a whole number or a text that reads as none of the values a setting may have.

The only thing that keeps settings from being read is a whole number with more digits than are read;
everything else that is no setting is skipped.
-/

namespace Storybind

/-! ### Numbers as settings -/

section

variable {cs : List Char}

/-- An optional minus sign and digits. -/
def ReadsAsWhole (cs : List Char) : Prop :=
  ∃ sign digits, (sign = [] ∨ sign = ['-']) ∧ digits ≠ [] ∧ (∀ c ∈ digits, Text.isDigit c) ∧
    cs = sign ++ digits

/-- An optional minus sign, digits, which may be missing, a point and digits. -/
def ReadsAsDecimal (cs : List Char) : Prop :=
  ∃ sign whole part, (sign = [] ∨ sign = ['-']) ∧ (∀ c ∈ whole, Text.isDigit c) ∧ part ≠ [] ∧
    (∀ c ∈ part, Text.isDigit c) ∧ cs = sign ++ whole ++ '.' :: part

theorem not_readsAs_of_mem (c : Char) (hc : c ∈ cs) (hsign : c ≠ '-') (hpoint : c ≠ '.')
    (hdigit : Text.isDigit c = false) : ¬ReadsAsWhole cs ∧ ¬ReadsAsDecimal cs := by
  have hnot : ¬Text.isDigit c = true := by rw [hdigit]; decide
  have hnosign : ∀ sign, sign = [] ∨ sign = ['-'] → c ∉ sign := by
    rintro sign (rfl | rfl) hmem
    · exact List.not_mem_nil hmem
    · exact hsign (List.mem_singleton.mp hmem)
  constructor
  · rintro ⟨sign, digits, hs, -, hall, rfl⟩
    rcases List.mem_append.mp hc with h | h
    · exact hnosign sign hs h
    · exact hnot (hall c h)
  · rintro ⟨sign, whole, part, hs, hwhole, -, hpart, rfl⟩
    rcases List.mem_append.mp hc with h | h
    · rcases List.mem_append.mp h with h | h
      · exact hnosign sign hs h
      · exact hnot (hwhole c h)
    · rcases List.mem_cons.mp h with h | h
      · exact hpoint h
      · exact hnot (hpart c h)

theorem reverse_ne_break (h : Text.Trimmed cs) (r : List Char) : cs.reverse ≠ '\n' :: r := by
  intro hr
  have hlast : cs.getLast? = some '\n' := by rw [← List.head?_reverse, hr]; rfl
  exact absurd (h.last _ hlast) (by decide)

/-- What stands behind the minus sign, if there is one. -/
def afterMinus : List Char → List Char
  | '-' :: r => r
  | r => r

theorem exists_sign (cs : List Char) :
    ∃ sign, (sign = [] ∨ sign = ['-']) ∧ cs = sign ++ afterMinus cs := by
  unfold afterMinus
  split
  · next r => exact ⟨['-'], .inr rfl, rfl⟩
  · exact ⟨[], .inl rfl, rfl⟩

theorem afterMinus_append {sign digits : List Char} (hsign : sign = [] ∨ sign = ['-'])
    (hdigits : ∀ c ∈ digits, Text.isDigit c) : afterMinus (sign ++ digits) = digits := by
  rcases hsign with rfl | rfl
  · rw [List.nil_append]
    unfold afterMinus
    split
    · next r => exact absurd (hdigits '-' List.mem_cons_self) (by decide)
    · rfl
  · rfl

theorem readsAsWhole_iff : ReadsAsWhole cs ↔
    (!(afterMinus cs).isEmpty && (afterMinus cs).all Text.isDigit) = true := by
  simp only [Bool.and_eq_true, Bool.not_eq_true', List.isEmpty_eq_false_iff, List.all_eq_true]
  constructor
  · rintro ⟨sign, digits, hsign, hne, hall, rfl⟩
    rw [afterMinus_append hsign hall]
    exact ⟨hne, hall⟩
  · rintro ⟨hne, hall⟩
    obtain ⟨sign, hsign, hcs⟩ := exists_sign cs
    exact ⟨sign, afterMinus cs, hsign, hne, hall, hcs⟩

theorem readsAsDecimal_of_point {part : List Char}
    (hpart : (afterMinus cs).drop ((afterMinus cs).takeWhile Text.isDigit).length = '.' :: part)
    (hall : (!part.isEmpty && part.all Text.isDigit) = true) : ReadsAsDecimal cs := by
  simp only [Bool.and_eq_true, Bool.not_eq_true', List.isEmpty_eq_false_iff, List.all_eq_true] at hall
  obtain ⟨sign, hsign, hcs⟩ := exists_sign cs
  refine ⟨sign, (afterMinus cs).takeWhile Text.isDigit, part, hsign, ?_, hall.1, hall.2, ?_⟩
  · exact List.all_eq_true.mp List.all_takeWhile
  · have hrest := List.prefix_iff_eq_append.mp (List.takeWhile_prefix (l := afterMinus cs) Text.isDigit)
    rw [hpart] at hrest
    rw [List.append_assoc, hrest]
    exact hcs

/-- What a text without blanks at its ends denotes: no line break is taken from it. -/
theorem settingValue_trimmed {s : String} (htrim : Text.Trimmed s.toList) (htrue : s ≠ "true")
    (hfalse : s ≠ "false") :
    settingValue s =
      if !(afterMinus s.toList).isEmpty && (afterMinus s.toList).all Text.isDigit then
        match readInt s.toList with
        | .ok n => .ok (.int n)
        | .error (.tooManyDigits n) => .error ⟨n⟩
        | .error .malformed => .ok (.text s)
      else
        match (afterMinus s.toList).drop ((afterMinus s.toList).takeWhile Text.isDigit).length with
        | '.' :: part =>
          if !part.isEmpty && part.all Text.isDigit then
            .ok (match readFloat? s.toList with
              | some x => .float x
              | none => .text s)
          else .ok (.text s)
        | _ => .ok (.text s) := by
  unfold settingValue
  extract_lets line digits whole
  have hline : line = s.toList := by
    unfold line
    split
    · next r hr => exact absurd hr (reverse_ne_break htrim r)
    · rfl
  clear_value line
  subst hline
  rw [if_neg htrue, if_neg hfalse]
  rfl

variable {s : String}

/-- Both words for truth values hold a letter that no number has. -/
theorem ReadsAsWhole.ne_word {word : String} (h : ReadsAsWhole s.toList) (hword : 'e' ∈ word.toList) :
    s ≠ word := by
  rintro rfl
  exact (not_readsAs_of_mem 'e' hword (by decide) (by decide) (by decide)).1 h

theorem ReadsAsWhole.settingValue_eq (h : ReadsAsWhole s.toList) (htrim : Text.Trimmed s.toList) :
    settingValue s =
      match readInt s.toList with
      | .ok n => .ok (.int n)
      | .error (.tooManyDigits n) => .error ⟨n⟩
      | .error .malformed => .ok (.text s) := by
  rw [settingValue_trimmed htrim (h.ne_word (by decide)) (h.ne_word (by decide)),
    if_pos (readsAsWhole_iff.mp h)]

/-- A text that does not read as a whole number denotes something. -/
theorem exists_settingValue (htrim : Text.Trimmed s.toList) (hwhole : ¬ReadsAsWhole s.toList) :
    ∃ v, settingValue s = .ok v := by
  by_cases htrue : s = "true"
  · exact ⟨.bool true, by subst htrue; rfl⟩
  · by_cases hfalse : s = "false"
    · exact ⟨.bool false, by subst hfalse; rfl⟩
    · rw [settingValue_trimmed htrim htrue hfalse, if_neg (mt readsAsWhole_iff.mpr hwhole)]
      split
      · split <;> exact ⟨_, rfl⟩
      · exact ⟨_, rfl⟩

/-- A text that reads as none of the values denotes itself. -/
theorem settingValue_words (htrim : Text.Trimmed s.toList) (htrue : s ≠ "true") (hfalse : s ≠ "false")
    (hwhole : ¬ReadsAsWhole s.toList) (hdecimal : ¬ReadsAsDecimal s.toList) :
    settingValue s = .ok (.text s) := by
  rw [settingValue_trimmed htrim htrue hfalse, if_neg (mt readsAsWhole_iff.mpr hwhole)]
  split
  · next part hpart => rw [if_neg fun hall => hdecimal (readsAsDecimal_of_point hpart hall)]
  · rfl

/-! ### Whole numbers -/

/-- A sign and digits, as whole numbers are written. -/
def signed (negative : Bool) (ds : List Char) : List Char := (if negative then ['-'] else []) ++ ds

theorem toList_toString_int (n : Int) :
    (toString n).toList = signed (n < 0) (Nat.toDigits 10 n.natAbs) := by
  rw [← Json.Numeral.text_ofInt]
  simp [Json.Numeral.text, Json.Numeral.ofInt, Json.Numeral.partText, Json.Numeral.exponentText, signed]

theorem digitValue?_of_isAsciiDigit {c : Char} (h : Text.isAsciiDigit c = true) :
    Text.digitValue? c = some (c.toNat - 48) := by
  simp only [Text.isAsciiDigit, Bool.and_eq_true, decide_eq_true_eq] at h
  have hascii : c.toNat < 128 := by omega
  simp [Text.digitValue?, hascii, h.1, h.2]

theorem isDigit_of_isAsciiDigit {c : Char} (h : Text.isAsciiDigit c = true) : Text.isDigit c = true := by
  rw [Text.isDigit, digitValue?_of_isAsciiDigit h]
  rfl

/-- No run of digits of a writing system holds a blank. -/
theorem blankless_digitZeros : ∀ z ∈ Text.digitZeros.toList, 0xa0 < z ∧ z + 9 < 0x1680 ∨
    0x1680 < z ∧ z + 9 < 0x2000 ∨ 0x3000 < z := by
  decide

theorem isBlank_of_isDigit {c : Char} (h : Text.isDigit c = true) : Text.isBlank c = false := by
  have hcode : 48 ≤ c.toNat ∧ c.toNat ≤ 57 ∨ 0xa0 < c.toNat ∧ c.toNat < 0x1680 ∨
      0x1680 < c.toNat ∧ c.toNat < 0x2000 ∨ 0x3000 < c.toNat := by
    obtain ⟨v, hv⟩ := Option.isSome_iff_exists.mp h
    simp only [Text.digitValue?] at hv
    split at hv
    · split at hv
      · next hascii =>
        simp only [Bool.and_eq_true, decide_eq_true_eq] at hascii
        exact .inl hascii
      · cases hv
    · obtain ⟨z, hz, -⟩ := Option.map_eq_some_iff.mp hv
      have hrange := Array.find?_some hz
      simp only [Bool.and_eq_true, decide_eq_true_eq] at hrange
      have hzero := blankless_digitZeros z (Array.mem_def.mp (Array.mem_of_find?_eq_some hz))
      omega
  simp only [Text.isBlank, Bool.or_eq_false_iff, Bool.and_eq_false_iff, decide_eq_false_iff_not,
    beq_eq_false_iff_ne]
  omega

variable {ds : List Char}

theorem digitRun?_of_isDigit (hne : ds ≠ []) (h : ∀ c ∈ ds, Text.isDigit c = true) :
    digitRun? Text.digitValue? ds = some (ds.map fun c => (Text.digitValue? c).getD 0) := by
  induction ds with
  | nil => exact absurd rfl hne
  | cons c cs ih =>
    obtain ⟨v, hv⟩ := Option.isSome_iff_exists.mp (h c List.mem_cons_self)
    cases cs with
    | nil => simp [digitRun?, hv]
    | cons d cs =>
      have hd : Text.isDigit d = true := h d (by simp)
      have hbar : d ≠ '_' := by
        rintro rfl
        exact absurd hd (by decide)
      have hrest := ih (List.cons_ne_nil d cs) fun x hx => h x (List.mem_cons_of_mem c hx)
      simp [digitRun?, hv, hrest, hbar]

theorem trimmed_signed (negative : Bool) (h : ∀ c ∈ ds, Text.isDigit c = true) :
    Text.Trimmed (signed negative ds) := by
  apply Text.trimmed_of_forall
  intro c hc
  rcases List.mem_append.mp hc with hsign | hdigit
  · cases negative
    · cases hsign
    · rw [List.mem_singleton.mp hsign]
      decide
  · exact isBlank_of_isDigit (h c hdigit)

theorem signOf_signed (negative : Bool) (h : ∀ c ∈ ds, Text.isDigit c = true) :
    signOf (signed negative ds) = (negative, ds) := by
  cases negative with
  | true => rfl
  | false =>
    cases ds with
    | nil => rfl
    | cons c cs =>
      have hc := h c List.mem_cons_self
      -- the first digit is no sign
      rw [signed, if_neg Bool.false_ne_true, List.nil_append]
      unfold signOf
      split
      · next r heq =>
        rw [(List.cons.inj heq).1] at hc
        exact absurd hc (by decide)
      · next r heq =>
        rw [(List.cons.inj heq).1] at hc
        exact absurd hc (by decide)
      · rfl

/-- A sign and digits read as a number, unless there are too many. -/
theorem readInt_signed (negative : Bool) (hne : ds ≠ []) (h : ∀ c ∈ ds, Text.isDigit c = true) :
    readInt (signed negative ds) =
      if maxDigits < ds.length then .error (.tooManyDigits ds.length)
      else .ok (withSign negative (digitsValue 10 (ds.map fun c => (Text.digitValue? c).getD 0))) := by
  have htrim := Text.trimChars_eq_self.mpr (trimmed_signed negative h)
  rw [readInt, htrim, signOf_signed negative h]
  simp only [digitRun?_of_isDigit hne h, List.length_map]

theorem numberOf_eq_digitsValue (h : Json.AllDigits ds) :
    digitsValue 10 (ds.map fun c => (Text.digitValue? c).getD 0) = Json.numberOf ds := by
  have hmap : (ds.map fun c => (Text.digitValue? c).getD 0) = ds.map fun c => c.toNat - 48 := by
    apply List.map_congr_left
    intro c hc
    rw [digitValue?_of_isAsciiDigit (h c hc), Option.getD_some]
  rw [hmap]
  rfl

theorem settingValue_whole {n : Int} (hn : isOverlong n = false) :
    settingValue (toString n) = .ok (.int n) := by
  have hform := Json.Numeral.isWellFormed_ofInt hn
  have hdigits : Json.AllDigits (Nat.toDigits 10 n.natAbs) := hform.whole
  have hne : Nat.toDigits 10 n.natAbs ≠ [] := hform.nonempty
  have hlength : (Nat.toDigits 10 n.natAbs).length ≤ maxDigits := hform.short rfl
  have htext := toList_toString_int n
  have hall : ∀ c ∈ Nat.toDigits 10 n.natAbs, Text.isDigit c = true := fun c hc =>
    isDigit_of_isAsciiDigit (hdigits c hc)
  have htrim : Text.Trimmed (toString n).toList := by
    rw [htext]
    exact trimmed_signed _ hall
  have hwhole : ReadsAsWhole (toString n).toList := by
    refine ⟨if n < 0 then ['-'] else [], Nat.toDigits 10 n.natAbs, ?_, hne, hall, ?_⟩
    · split
      · exact .inr rfl
      · exact .inl rfl
    · rw [htext, signed]
      simp only [decide_eq_true_eq]
  have hread : readInt (toString n).toList = .ok n := by
    calc readInt (toString n).toList
        = .ok (withSign (n < 0) (Json.numberOf (Nat.toDigits 10 n.natAbs))) := by
          rw [htext, readInt_signed _ hne hall, if_neg (not_lt.mpr hlength),
            numberOf_eq_digitsValue hdigits]
      _ = .ok n := by rw [Json.Numeral.numberOf_toDigits, Json.Numeral.withSign_natAbs]
  rw [hwhole.settingValue_eq htrim, hread]

end

/-! ### Plain texts -/

namespace Directive

/-- A text that can stand between quotes: it holds none, and no blank stands at its ends. -/
structure Plain (s : String) : Prop where
  unquoted : ∀ c ∈ s.toList, isQuote c = false
  trim_eq : Text.trim s = s

variable {s t : String}

instance : Decidable (Plain s) :=
  decidable_of_iff ((s.toList.all fun c => isQuote c = false) = true ∧ Text.trim s = s) <| by
    rw [List.all_eq_true]
    simp only [decide_eq_true_eq]
    exact ⟨fun h => ⟨h.1, h.2⟩, fun h => ⟨h.unquoted, h.trim_eq⟩⟩

theorem Plain.trimmed (h : Plain s) : Text.Trimmed s.toList := Text.trim_eq_self.mp h.trim_eq

theorem Plain.append (hs : Plain s) (ht : Plain t) : Plain (s ++ t) where
  unquoted := by
    rw [String.toList_append]
    exact List.forall_mem_append.mpr ⟨hs.unquoted, ht.unquoted⟩
  trim_eq := by
    rw [Text.trim_eq_self, String.toList_append]
    exact hs.trimmed.append ht.trimmed

theorem Plain.join (sep : Plain s) {texts : List String} (h : ∀ t ∈ texts, Plain t) :
    Plain (Text.join s texts) := by
  have hempty : Plain "" := by decide
  induction texts with
  | nil => exact hempty
  | cons t texts ih =>
    have ht := h t List.mem_cons_self
    have hrest := ih fun x hx => h x (List.mem_cons_of_mem t hx)
    cases texts with
    | nil =>
      rw [Text.join, String.intercalate_singleton]
      exact ht
    | cons x texts =>
      rw [Text.join, String.intercalate_cons_cons]
      exact (ht.append sep).append hrest

end Directive

open Directive (Plain)

/-! ### Settings -/

/-- A setting of an instance. -/
inductive Setting where
  | truth (b : Bool)
  | whole (n : Int)
  | words (s : String)
deriving DecidableEq

namespace Setting

/-- A setting as it is written. -/
def text : Setting → String
  | truth true => "true"
  | truth false => "false"
  | whole n => toString n
  | words s => s

/-- A setting as it is read. -/
def value : Setting → Value
  | truth b => .bool b
  | whole n => .int n
  | words s => .text s

/-- A setting that a directive can have: a number with no more digits than are read, or words that
stand between commas and read as no number and no truth value. -/
inductive IsWritable : Setting → Prop
  | truth (b : Bool) : IsWritable (truth b)
  | whole {n : Int} (short : isOverlong n = false) : IsWritable (whole n)
  | words {s : String} (plain : Plain s) (comma : ',' ∉ s.toList) (htrue : s ≠ "true")
      (hfalse : s ≠ "false") (hwhole : ¬ReadsAsWhole s.toList) (hdecimal : ¬ReadsAsDecimal s.toList) :
      IsWritable (words s)

variable {x : Setting}

theorem settingValue_text (h : x.IsWritable) : settingValue x.text = .ok x.value := by
  cases h with
  | truth b => cases b <;> rfl
  | whole short => exact settingValue_whole short
  | words plain _ htrue hfalse hwhole hdecimal =>
    exact settingValue_words plain.trimmed htrue hfalse hwhole hdecimal

theorem mem_toString_int {n : Int} {c : Char} (h : c ∈ (toString n).toList) :
    c = '-' ∨ Text.isAsciiDigit c = true := by
  rw [toList_toString_int] at h
  rcases List.mem_append.mp h with hsign | hdigit
  · split at hsign
    · exact .inl (List.mem_singleton.mp hsign)
    · cases hsign
  · exact .inr (Json.Numeral.allDigits_toDigits _ c hdigit)

theorem plain_text (h : x.IsWritable) : Plain x.text := by
  cases h with
  | truth b => cases b <;> decide
  | @whole n _ =>
    have hchars : ∀ c ∈ (toString n).toList,
        Directive.isQuote c = false ∧ Text.isBlank c = false := by
      intro c hc
      rcases mem_toString_int hc with rfl | hdigit
      · decide
      · refine ⟨?_, isBlank_of_isDigit (isDigit_of_isAsciiDigit hdigit)⟩
        rw [Bool.eq_false_iff]
        intro hquote
        simp only [Directive.isQuote, Bool.or_eq_true, decide_eq_true_eq] at hquote
        rcases hquote with rfl | rfl <;> exact absurd hdigit (by decide)
    refine ⟨fun c hc => (hchars c hc).1, ?_⟩
    exact Text.trim_eq_self.mpr (Text.trimmed_of_forall fun c hc => (hchars c hc).2)
  | words plain => exact plain

theorem comma_not_mem_text (h : x.IsWritable) : ',' ∉ x.text.toList := by
  cases h with
  | truth b => cases b <;> decide
  | whole _ =>
    intro hmem
    rcases mem_toString_int hmem with hsign | hdigit
    · exact absurd hsign (by decide)
    · exact absurd hdigit (by decide)
  | words _ comma => exact comma

end Setting

/-! ### A list of settings -/

namespace MountSettings

/-- The name of a setting: it stands before an equals sign and between commas. -/
structure IsName (name : String) : Prop extends Plain name where
  filled : name ≠ ""
  comma : ',' ∉ name.toList
  equals : '=' ∉ name.toList

instance (name : String) : Decidable (IsName name) :=
  decidable_of_iff (Plain name ∧ name ≠ "" ∧ ',' ∉ name.toList ∧ '=' ∉ name.toList)
    ⟨fun h => ⟨h.1, h.2.1, h.2.2.1, h.2.2.2⟩, fun h => ⟨h.toPlain, h.filled, h.comma, h.equals⟩⟩

/-- A setting under its name, as it is written. -/
def assignment (p : String × Setting) : String := p.1 ++ "=" ++ p.2.text

/-- Settings as they are written. -/
def written (settings : List (String × Setting)) : String :=
  Text.join "," (settings.map assignment)

/-- Settings as they are read. -/
def entries (settings : List (String × Setting)) : Entries :=
  settings.map fun p => (.text p.1, p.2.value)

variable {p : String × Setting} {settings : List (String × Setting)}

theorem plain_assignment (hname : IsName p.1) (hsetting : p.2.IsWritable) : Plain (assignment p) :=
  (hname.toPlain.append (by decide)).append (Setting.plain_text hsetting)

theorem plain_written (h : ∀ p ∈ settings, IsName p.1 ∧ p.2.IsWritable) : Plain (written settings) := by
  apply Directive.Plain.join (by decide)
  intro t ht
  obtain ⟨p, hp, rfl⟩ := List.mem_map.mp ht
  exact plain_assignment (h p hp).1 (h p hp).2

theorem comma_not_mem_assignment (hname : IsName p.1) (hsetting : p.2.IsWritable) :
    ',' ∉ (assignment p).toList := by
  simp only [assignment, String.toList_append, List.mem_append, not_or]
  exact ⟨⟨hname.comma, by decide⟩, Setting.comma_not_mem_text hsetting⟩

theorem take_assignment (done : List (String × Setting)) (hname : IsName p.1) (hsetting : p.2.IsWritable)
    (hnew : p.1 ∉ done.map Prod.fst) :
    take (assignment p) ⟨entries done, []⟩ = .ok ⟨entries (done ++ [p]), []⟩ := by
  have hplain := plain_assignment hname hsetting
  have hpiece : (assignment p).toList = p.1.toList ++ '=' :: p.2.text.toList := by
    rw [assignment, String.toList_append, String.toList_append, List.append_assoc]
    rfl
  have hfilled : (assignment p).isEmpty = false := by
    rw [String.isEmpty_eq_false_iff]
    intro hempty
    rw [hempty] at hpiece
    exact absurd hpiece.symm (by simp)
  have hcut := Text.cutAt?_append hname.equals p.2.text.toList
  have hnamed : Text.trimChars p.1.toList = p.1.toList :=
    Text.trimChars_eq_self.mpr hname.toPlain.trimmed
  have hvalue : Text.trim p.2.text = p.2.text := (Setting.plain_text hsetting).trim_eq
  have hnameless : p.1.toList.isEmpty = false := by
    rw [List.isEmpty_eq_false_iff, Ne, String.toList_eq_nil_iff]
    exact hname.filled
  -- a new name is put after those before it
  have hput : Entries.put (.text p.1) p.2.value (entries done) = entries (done ++ [p]) := by
    rw [Json.put_of_forall, entries, entries, List.map_append, List.map_singleton]
    intro e he
    obtain ⟨q, hq, rfl⟩ := List.mem_map.mp he
    have hne : q.1 ≠ p.1 := fun heq => hnew (heq ▸ List.mem_map_of_mem hq)
    simpa [Scalar.sameKey] using hne
  rw [take, hplain.trim_eq, hpiece, hcut]
  simp only [hfilled, hnamed, hnameless, hvalue, Setting.settingValue_text hsetting,
    String.ofList_toList, Bool.false_eq_true, if_false, Except.map, Entries.set, hput]

theorem foldlM_take (done : List (String × Setting)) (h : ∀ p ∈ settings, IsName p.1 ∧ p.2.IsWritable)
    (hdistinct : ((done ++ settings).map Prod.fst).Nodup) :
    (settings.map assignment).foldlM (fun s piece => take piece s) ⟨entries done, []⟩ =
      .ok ⟨entries (done ++ settings), []⟩ := by
  -- the settings that were taken in are the first ones, in their order
  induction settings generalizing done with
  | nil =>
    rw [List.append_nil]
    rfl
  | cons p settings ih =>
    obtain ⟨hname, hsetting⟩ := h p List.mem_cons_self
    have hnew : p.1 ∉ done.map Prod.fst := by
      rw [List.map_append, List.map_cons] at hdistinct
      exact fun hmem => List.disjoint_of_nodup_append hdistinct hmem List.mem_cons_self
    have hsplit : done ++ p :: settings = done ++ [p] ++ settings := by simp
    rw [hsplit] at hdistinct ⊢
    rw [List.map_cons, List.foldlM_cons, take_assignment done hname hsetting hnew]
    exact ih (done ++ [p]) (fun q hq => h q (List.mem_cons_of_mem p hq)) hdistinct

theorem read_written (h : ∀ p ∈ settings, IsName p.1 ∧ p.2.IsWritable)
    (hdistinct : (settings.map Prod.fst).Nodup) :
    read (written settings) = .ok ⟨entries settings, []⟩ := by
  cases settings with
  | nil => rfl
  | cons p settings =>
    have hcommas : ∀ t ∈ (p :: settings).map assignment, ',' ∉ t.toList := by
      intro t ht
      obtain ⟨q, hq, rfl⟩ := List.mem_map.mp ht
      exact comma_not_mem_assignment (h q hq).1 (h q hq).2
    have hsplit : Text.split ',' (written (p :: settings)) = (p :: settings).map assignment :=
      Text.split_join (List.cons_ne_nil _ _) hcommas
    rw [read, hsplit]
    exact foldlM_take [] h hdistinct

end MountSettings

end Storybind

/-! ### Settings that are refused -/

namespace Storybind

open Storybind.Except (Fails fails_foldlM fails_map not_fails_ok)

/-- An optional minus sign and more digits than are read. -/
def ReadsAsOverlong (cs : List Char) : Prop :=
  ∃ sign digits, (sign = [] ∨ sign = ['-']) ∧ (∀ c ∈ digits, Text.isDigit c) ∧
    maxDigits < digits.length ∧ cs = sign ++ digits

theorem eq_signed {sign : List Char} (digits : List Char) (h : sign = [] ∨ sign = ['-']) :
    ∃ negative, sign ++ digits = signed negative digits := by
  rcases h with rfl | rfl
  · exact ⟨false, rfl⟩
  · exact ⟨true, rfl⟩

/-- The text of a setting denotes something unless it is a whole number with too many digits. -/
theorem fails_settingValue {s : String} (htrim : Text.Trimmed s.toList) :
    Fails (settingValue s) ↔ ReadsAsOverlong s.toList := by
  constructor
  · intro hfails
    by_contra hshort
    by_cases hreads : ReadsAsWhole s.toList
    · obtain ⟨sign, digits, hsign, hne, hall, heq⟩ := id hreads
      obtain ⟨negative, hsigned⟩ := eq_signed digits hsign
      have hle : ¬maxDigits < digits.length := fun hlong => hshort ⟨sign, digits, hsign, hall, hlong, heq⟩
      have hread := readInt_signed negative hne hall
      rw [if_neg hle, ← hsigned, ← heq] at hread
      rw [hreads.settingValue_eq htrim, hread] at hfails
      exact not_fails_ok _ hfails
    · obtain ⟨v, hv⟩ := exists_settingValue htrim hreads
      rw [hv] at hfails
      exact not_fails_ok v hfails
  · rintro ⟨sign, digits, hsign, hall, hlong, heq⟩
    have hne := List.ne_nil_of_length_pos (Nat.zero_lt_of_lt hlong)
    have hreads : ReadsAsWhole s.toList := ⟨sign, digits, hsign, hne, hall, heq⟩
    obtain ⟨negative, hsigned⟩ := eq_signed digits hsign
    have hread := readInt_signed negative hne hall
    rw [if_pos hlong, ← hsigned, ← heq] at hread
    rw [hreads.settingValue_eq htrim, hread]
    exact ⟨_, rfl⟩

namespace MountSettings

variable {piece : String} {s : MountSettings}

/-- Whether a piece is a name and a whole number with more digits than are read. -/
def IsOverlong (piece : String) : Prop :=
  ∃ name value, Text.cutAt? ['='] piece.toList = some (name, value) ∧ Text.trimChars name ≠ [] ∧
    ReadsAsOverlong (Text.trimChars value)

/-- Whether settings hold a whole number with more digits than are read. -/
def HoldOverlong (text : String) : Prop := ∃ piece ∈ Text.split ',' text, IsOverlong piece

theorem trim_ne_empty {name value : List Char} (h : Text.cutAt? ['='] piece.toList = some (name, value)) :
    (Text.trim piece).isEmpty = false := by
  have hmem : '=' ∈ piece.toList := by
    rw [(Text.cutAt?_first h).1]
    simp
  rw [String.isEmpty_eq_false_iff, Ne, Text.trim_eq_empty]
  -- the equals sign is no blank, so it is not trimmed
  intro hblank
  exact absurd (hblank '=' hmem) (by decide)

theorem fails_take : Fails (take piece s) ↔ IsOverlong piece := by
  unfold take IsOverlong
  cases hcut : Text.cutAt? ['='] piece.toList with
  | none =>
    refine iff_of_false ?_ ?_
    · simp only
      split <;> exact not_fails_ok _
    · rintro ⟨name, value, h, -⟩
      cases h
  | some r =>
    obtain ⟨name, value⟩ := r
    have htrim : Text.Trimmed (Text.trim (String.ofList value)).toList :=
      Text.trim_eq_self.mp (Text.trim_trim _)
    have hvalue : (Text.trim (String.ofList value)).toList = Text.trimChars value := by
      rw [Text.trim, String.toList_ofList, String.toList_ofList]
    simp only [trim_ne_empty hcut, Bool.false_eq_true, if_false, Option.some.injEq, Prod.mk.injEq]
    by_cases hname : Text.trimChars name = []
    · simp [hname, not_fails_ok]
    · rw [if_neg (by simpa using hname), fails_map, fails_settingValue htrim, hvalue]
      simp [hname]

/-- Settings can be read unless they hold a whole number with too many digits. -/
theorem fails_read {text : String} : Fails (read text) ↔ HoldOverlong text := by
  have htake : ∀ (s : MountSettings) (piece : String), Fails (s.take piece) ↔ IsOverlong piece :=
    fun _ _ => fails_take
  unfold read
  exact fails_foldlM htake _ _

end MountSettings
end Storybind
