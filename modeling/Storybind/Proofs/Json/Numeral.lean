import Mathlib.Tactic
import Storybind.Json.Reader

/-!
Numerals of JSON text. A numeral with anything behind it that may follow a value reads as the number
that it denotes, and the numerals of whole numbers denote them.
-/

namespace Storybind.Json

/-- A numeral by its parts: a sign, the digits before and after the point, and the sign and the digits
of an exponent. -/
structure Numeral where
  negative : Bool
  whole : List Char
  part : List Char
  exponent : Option (Bool × List Char)

/-- Whether a text is one of decimal digits. -/
def AllDigits (ds : List Char) : Prop := ∀ d ∈ ds, Text.isAsciiDigit d = true

/-- What may stand behind a value. -/
def Delimited (rest : List Char) : Prop :=
  ∀ c, rest.head? = some c → c ∈ [',', ']', '\x7d', ' ', '\n']

namespace Numeral

variable {n : Numeral} {rest : List Char}

def partText (n : Numeral) : List Char := if n.part.isEmpty then [] else '.' :: n.part

def exponentText (n : Numeral) : List Char :=
  match n.exponent with
  | none => []
  | some (negative, ds) => 'e' :: (if negative then '-' else '+') :: ds

/-- The text of a numeral. -/
def text (n : Numeral) : List Char :=
  (if n.negative then ['-'] else []) ++ n.whole ++ n.partText ++ n.exponentText

/-- Whether a numeral has neither a fraction nor an exponent. -/
def isWhole (n : Numeral) : Bool := n.part.isEmpty && n.exponent.isNone

/-- The number that a numeral denotes. -/
def value (n : Numeral) : Value :=
  if n.isWhole then .int (withSign n.negative (numberOf n.whole))
  else
    let e := match n.exponent with
      | none => 0
      | some (negative, ds) => withSign negative (numberOf ds)
    .float (floatOfDecimal n.negative (numberOf (n.whole ++ n.part)) (e - n.part.length))

/-- What makes a numeral one of JSON. -/
structure IsWellFormed (n : Numeral) : Prop where
  whole : AllDigits n.whole
  nonempty : n.whole ≠ []
  zero : n.whole.head? = some '0' → n.whole = ['0']
  part : AllDigits n.part
  exponent : ∀ e, n.exponent = some e → AllDigits e.2 ∧ e.2 ≠ []
  short : n.isWhole = true → n.whole.length ≤ maxDigits

theorem takeWhile_digits {ds tail : List Char} (h : AllDigits ds)
    (ht : ∀ c, tail.head? = some c → Text.isAsciiDigit c = false) :
    (ds ++ tail).takeWhile Text.isAsciiDigit = ds := by
  have htail : tail.takeWhile Text.isAsciiDigit = [] := by
    cases tail with
    | nil => rfl
    | cons c cs => rw [List.takeWhile_cons_of_neg (by simp [ht c rfl])]
  rw [List.takeWhile_append_of_pos h, htail, List.append_nil]

theorem isAsciiDigit_of_delimited (h : Delimited rest) :
    ∀ c, rest.head? = some c → Text.isAsciiDigit c = false := by
  intro c hc
  have hmem := h c hc
  revert c
  simp only [List.mem_cons, List.not_mem_nil, or_false]
  rintro c - (rfl | rfl | rfl | rfl | rfl) <;> decide

theorem head?_exponentText {c : Char} (h : Delimited rest)
    (hc : (n.exponentText ++ rest).head? = some c) : c = 'e' ∨ c ∈ [',', ']', '\x7d', ' ', '\n'] := by
  unfold exponentText at hc
  cases hexp : n.exponent with
  | none =>
    rw [hexp] at hc
    exact Or.inr (h c hc)
  | some e =>
    rw [hexp] at hc
    exact Or.inl (Option.some.inj hc).symm

theorem wholeDigits_append (hn : n.IsWellFormed) {tail : List Char}
    (ht : ∀ c, tail.head? = some c → Text.isAsciiDigit c = false) :
    wholeDigits (n.whole ++ tail) = n.whole := by
  obtain ⟨d, ds, hd⟩ := List.exists_cons_of_ne_nil hn.nonempty
  by_cases hzero : d = '0'
  · have hone := hn.zero (by rw [hd, hzero]; rfl)
    rw [hone]
    rfl
  -- without a zero at the head all digits up to the tail are read
  · have hscan : wholeDigits (n.whole ++ tail) = (n.whole ++ tail).takeWhile Text.isAsciiDigit := by
      rw [hd, List.cons_append]
      unfold wholeDigits
      split
      · next heq => exact absurd (List.cons.inj heq).1 hzero
      · rfl
    rw [hscan, takeWhile_digits hn.whole ht]

theorem partDigits_append (hn : n.IsWellFormed) (hr : Delimited rest) :
    partDigits (n.partText ++ (n.exponentText ++ rest)) = n.part := by
  have htail : ∀ c, (n.exponentText ++ rest).head? = some c → c ≠ '.' ∧
      Text.isAsciiDigit c = false := by
    intro c hc
    have hmem := head?_exponentText hr hc
    simp only [List.mem_cons, List.not_mem_nil, or_false] at hmem
    rcases hmem with rfl | rfl | rfl | rfl | rfl | rfl <;> decide
  unfold partText
  cases hpart : n.part with
  | nil =>
    simp only [List.isEmpty_nil, if_true, List.nil_append]
    unfold partDigits
    split
    · next heq => exact absurd rfl (htail '.' (by rw [heq]; rfl)).1
    · rfl
  | cons d ds =>
    have hdigits : AllDigits (d :: ds) := hpart ▸ hn.part
    simp only [List.isEmpty_cons, Bool.false_eq_true, if_false, List.cons_append, partDigits]
    exact takeWhile_digits hdigits fun c hc => (htail c hc).2

theorem exponentAt_append (hn : n.IsWellFormed) (hr : Delimited rest) :
    exponentAt (n.exponentText ++ rest) =
      ((n.exponent.map Prod.fst).getD false, (n.exponent.map Prod.snd).getD [],
        n.exponentText.length) := by
  unfold exponentText
  cases hexp : n.exponent with
  | none =>
    simp only [List.nil_append]
    cases rest with
    | nil => rfl
    | cons c cs =>
      have hmem := hr c rfl
      -- what ends a number begins no exponent
      have hc : ¬(c = 'e' || c = 'E') := by
        simp only [List.mem_cons, List.not_mem_nil, or_false] at hmem
        rcases hmem with rfl | rfl | rfl | rfl | rfl <;> decide
      rw [exponentAt, if_neg hc]
      rfl
  | some e =>
    obtain ⟨negative, ds⟩ := e
    obtain ⟨hdigits, hne⟩ := hn.exponent _ hexp
    have hsign : signOf ((if negative then '-' else '+') :: (ds ++ rest)) = (negative, ds ++ rest) := by
      cases negative <;> rfl
    have hscan : (ds ++ rest).takeWhile Text.isAsciiDigit = ds :=
      takeWhile_digits hdigits (isAsciiDigit_of_delimited hr)
    have hempty : ds.isEmpty = false := List.isEmpty_eq_false_iff.mpr hne
    simp only [List.cons_append, exponentAt, hsign, hscan, hempty]
    simp
    omega

theorem length_text (n : Numeral) :
    (if n.negative then 1 else 0) + n.whole.length +
      (if n.part.isEmpty then 0 else n.part.length + 1) + n.exponentText.length =
        n.text.length := by
  have hpart : n.partText.length = if n.part.isEmpty then 0 else n.part.length + 1 := by
    unfold partText
    split <;> rfl
  rw [text, List.length_append, List.length_append, List.length_append, hpart]
  cases n.negative <;> rfl

/-- The sign is split off a numeral. -/
theorem head?_text (hn : n.IsWellFormed) :
    ((n.text ++ rest).head? == some '-') = n.negative := by
  obtain ⟨d, ds, hd⟩ := List.exists_cons_of_ne_nil hn.nonempty
  have hdigit := hn.whole d (by rw [hd]; exact List.mem_cons_self)
  have hminus : d ≠ '-' := by
    rintro rfl
    revert hdigit
    decide
  rw [text, hd]
  cases n.negative with
  | true => rfl
  | false => simpa using hminus

theorem drop_sign (n : Numeral) (rest : List Char) :
    (if n.negative then (n.text ++ rest).drop 1 else n.text ++ rest) =
      n.whole ++ (n.partText ++ (n.exponentText ++ rest)) := by
  rw [text]
  cases n.negative <;> simp

theorem drop_part (n : Numeral) (rest : List Char) :
    (if n.part.isEmpty then n.partText ++ rest
      else (n.partText ++ rest).drop (n.part.length + 1)) = rest := by
  unfold partText
  split
  · rfl
  · rw [List.cons_append, List.drop_succ_cons, List.drop_left]

theorem isWhole_eq (hn : n.IsWellFormed) :
    (n.part.isEmpty && ((n.exponent.map Prod.snd).getD []).isEmpty) = n.isWhole := by
  unfold isWhole
  cases hexp : n.exponent with
  | none => rfl
  | some e =>
    have hne := (hn.exponent e hexp).2
    simp [hne]

/-- A numeral reads as its number. -/
theorem numberAt_numeral (hn : n.IsWellFormed) (hr : Delimited rest) (position : Nat) :
    numberAt ⟨n.text ++ rest, position⟩ =
      .ok (some (n.value, ⟨rest, position + n.text.length⟩)) := by
  -- what comes behind the digits is a point, an exponent or the end of the value
  have hafter : ∀ c, (n.partText ++ (n.exponentText ++ rest)).head? = some c →
      Text.isAsciiDigit c = false := by
    intro c hc
    unfold partText at hc
    split at hc
    · have hmem := head?_exponentText hr hc
      simp only [List.mem_cons, List.not_mem_nil, or_false] at hmem
      rcases hmem with rfl | rfl | rfl | rfl | rfl | rfl <;> decide
    · obtain rfl := Option.some.inj hc
      decide
  have hskip : Cursor.skip n.text.length ⟨n.text ++ rest, position⟩ =
      ⟨rest, position + n.text.length⟩ := by
    rw [Cursor.skip, List.drop_left]
  have hnonempty : n.whole.isEmpty = false := List.isEmpty_eq_false_iff.mpr hn.nonempty
  unfold numberAt
  simp only [head?_text hn, drop_sign, wholeDigits_append hn hafter, hnonempty, List.drop_left,
    partDigits_append hn hr, drop_part, exponentAt_append hn hr, isWhole_eq hn, length_text, hskip,
    Bool.false_eq_true, if_false]
  by_cases hwhole : n.isWhole = true
  · have hshort : ¬maxDigits < n.whole.length := not_lt.mpr (hn.short hwhole)
    rw [if_pos hwhole, if_neg hshort, value, if_pos hwhole]
  · rw [if_neg hwhole, value, if_neg hwhole]
    cases n.exponent <;> rfl

/-! ### Whole numbers -/

theorem numberOf_eq (ds : List Char) : numberOf ds = Nat.ofDigitChars 10 ds 0 := by
  have hfold (k : Nat) : (ds.map fun d => d.toNat - 48).foldl (fun n d => n * 10 + d) k =
      Nat.ofDigitChars 10 ds k := by
    rw [Nat.ofDigitChars_eq_foldl, List.foldl_map]
    congr 1
    funext m d
    rw [Nat.mul_comm]
    rfl
  exact hfold 0

theorem numberOf_toDigits (k : Nat) : numberOf (Nat.toDigits 10 k) = k := by
  rw [numberOf_eq, Nat.ofDigitChars_ten_toDigits]

theorem allDigits_toDigits (k : Nat) : AllDigits (Nat.toDigits 10 k) := by
  intro c hc
  have hdigit := Nat.isDigit_of_mem_toDigits (by decide) (by decide) hc
  simp only [Char.isDigit, Bool.and_eq_true, decide_eq_true_eq] at hdigit
  simp only [Text.isAsciiDigit, Bool.and_eq_true, decide_eq_true_eq]
  exact hdigit

/-- Only zero begins with a zero. -/
theorem toDigits_of_head?_zero {k : Nat} (h : (Nat.toDigits 10 k).head? = some '0') : k = 0 := by
  induction k using Nat.strongRecOn with
  | ind k ih =>
    rw [Nat.toDigits_eq_if (by decide)] at h
    split at h
    · exact Nat.digitChar_eq_zero.mp (Option.some.inj h)
    · next hk =>
      rw [List.head?_append_of_ne_nil _ Nat.toDigits_ne_nil] at h
      have hzero := ih (k / 10) (by omega) h
      omega

theorem length_toDigits_le {k m : Nat} (hm : 0 < m) (h : k < Nat.pow 10 m) :
    (Nat.toDigits 10 k).length ≤ m :=
  (Nat.length_toDigits_le_iff (by decide) hm).mpr h

theorem withSign_natAbs (e : Int) : withSign (e < 0) e.natAbs = e := by
  unfold withSign
  by_cases h : e < 0
  · simp only [h, decide_true, if_true]
    omega
  · simp only [h, decide_false, Bool.false_eq_true, if_false]
    omega

/-- The numeral of a whole number. -/
def ofInt (k : Int) : Numeral := ⟨k < 0, Nat.toDigits 10 k.natAbs, [], none⟩

theorem text_ofInt (k : Int) : (ofInt k).text = (toString k).toList := by
  have htext (negative : Bool) (ds : List Char) :
      (Numeral.mk negative ds [] none).text = (if negative then ['-'] else []) ++ ds := by
    cases negative <;> simp [text, partText, exponentText]
  rw [ofInt, htext, Int.toString_eq_repr]
  cases k with
  | ofNat m =>
    have hsign : ¬(Int.ofNat m < 0) := not_lt.mpr (Int.natCast_nonneg m)
    simp only [hsign, decide_false, Bool.false_eq_true, if_false, List.nil_append, Int.repr,
      Nat.toList_repr]
    rfl
  | negSucc m =>
    have hsign : Int.negSucc m < 0 := Int.negSucc_lt_zero m
    simp only [hsign, decide_true, if_true, Int.repr, String.toList_append, Nat.toList_repr]
    rfl

theorem value_ofInt (k : Int) : (ofInt k).value = .int k := by
  have hvalue : (ofInt k).value =
      .int (withSign (k < 0) (numberOf (Nat.toDigits 10 k.natAbs))) := rfl
  rw [hvalue, numberOf_toDigits, withSign_natAbs]

theorem isWellFormed_ofInt {k : Int} (h : isOverlong k = false) : (ofInt k).IsWellFormed where
  whole := allDigits_toDigits k.natAbs
  nonempty := Nat.toDigits_ne_nil
  zero := by
    intro hzero
    have hk : k.natAbs = 0 := toDigits_of_head?_zero hzero
    rw [ofInt, hk]
    rfl
  part := nofun
  exponent := nofun
  short := by
    intro _
    have hbound : k.natAbs < digitBound := not_le.mp (of_decide_eq_false h)
    unfold digitBound at hbound
    exact length_toDigits_le (by decide) hbound

end Numeral
end Storybind.Json
