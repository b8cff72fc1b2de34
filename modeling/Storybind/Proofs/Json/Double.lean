import Mathlib.Tactic
import Storybind.Json.Writer
import Storybind.Proofs.Json.Numeral
import Storybind.Proofs.Number.Double
import Storybind.Proofs.Number.Shortest

/-!
The numerals of doubles. The shortest decimal of a finite double is a numeral that denotes it.
-/

namespace Storybind.Json

/-! ### Digits -/

theorem allDigits_zeros (k : Nat) : AllDigits (zeros k) := by
  intro d hd
  rw [List.eq_of_mem_replicate hd]
  decide

theorem AllDigits.append {ds es : List Char} (hd : AllDigits ds) (he : AllDigits es) :
    AllDigits (ds ++ es) := by
  intro d h
  rcases List.mem_append.mp h with h | h
  · exact hd d h
  · exact he d h

namespace Numeral

theorem numberOf_append (ds es : List Char) :
    numberOf (ds ++ es) = numberOf ds * 10 ^ es.length + numberOf es := by
  rw [numberOf_eq, numberOf_eq, numberOf_eq, Nat.ofDigitChars_append,
    Nat.ofDigitChars_eq_ofDigitChars_zero, Nat.mul_comm]

theorem numberOf_zeros (k : Nat) : numberOf (zeros k) = 0 := by
  rw [numberOf_eq, zeros, Nat.ofDigitChars_replicate_zero, Nat.mul_zero]

theorem numberOf_lt {ds : List Char} (h : AllDigits ds) : numberOf ds < 10 ^ ds.length := by
  induction ds with
  | nil => decide
  | cons d ds ih =>
    obtain ⟨hd, hds⟩ := List.forall_mem_cons.mp h
    -- one digit more is at most nine times the power, and the rest is below it
    have hdigit : numberOf [d] ≤ 9 := by
      have hone : numberOf [d] = d.toNat - 48 := by simp [numberOf, digitsValue]
      have hnine : d.toNat ≤ 57 := by
        unfold Text.isAsciiDigit at hd
        exact of_decide_eq_true (Bool.and_eq_true_iff.mp hd).2
      omega
    have hrest := ih hds
    rw [← List.singleton_append, numberOf_append, List.singleton_append, List.length_cons,
      Nat.pow_succ]
    have hstep : numberOf [d] * 10 ^ ds.length ≤ 9 * 10 ^ ds.length := Nat.mul_le_mul_right _ hdigit
    omega

/-- The digits of a number are those without the zeros at the end, and the zeros. -/
theorem stripZeros_append (ds : List Char) : ∃ k, ds = stripZeros ds ++ zeros k := by
  refine ⟨(ds.reverse.takeWhile (· = '0')).length, ?_⟩
  have hzeros : (ds.reverse.takeWhile (· = '0')).reverse =
      zeros (ds.reverse.takeWhile (· = '0')).length := by
    rw [zeros, List.eq_replicate_iff, List.length_reverse]
    refine ⟨rfl, fun d hd => ?_⟩
    have hd := List.all_eq_true.mp List.all_takeWhile d (List.mem_reverse.mp hd)
    exact of_decide_eq_true hd
  rw [← hzeros, stripZeros, ← List.reverse_append, List.takeWhile_append_dropWhile,
    List.reverse_reverse]

/-! ### Decimals -/

/-- Whether a text behind a sign is the numeral of a decimal with a value. -/
def DenotesDecimal (negative : Bool) (body : List Char) (r : ℚ) : Prop :=
  ∃ n : Numeral, n.IsWellFormed ∧ n.text = (if negative then ['-'] else []) ++ body ∧
    ∃ (digits : Nat) (exponent : Int), n.value = .float (floatOfDecimal negative digits exponent) ∧
      digits ≤ 10 ^ 20 ∧ (digits : ℚ) * 10 ^ exponent = r

/-- The power of ten that an exponent stands for. -/
def power (n : Numeral) : Int :=
  match n.exponent with
  | none => 0
  | some (negative, ds) => withSign negative (numberOf ds)

variable {n : Numeral} {ds body : List Char} {digits : Nat} {r : ℚ}

theorem denotesDecimal (hn : n.IsWellFormed) (hwhole : n.isWhole = false)
    (hbody : n.whole ++ n.partText ++ n.exponentText = body)
    (hdigits : numberOf (n.whole ++ n.part) = digits) (hbound : digits ≤ 10 ^ 20)
    (hr : (digits : ℚ) * 10 ^ (n.power - n.part.length) = r) :
    DenotesDecimal n.negative body r := by
  refine ⟨n, hn, ?_, digits, n.power - n.part.length, ?_, hbound, hr⟩
  · rw [text, ← hbody, List.append_assoc, List.append_assoc, List.append_assoc]
  · rw [value, hwhole, ← hdigits]
    rfl

theorem isWhole_of_part (h : n.part ≠ []) : n.isWhole = false := by
  rw [isWhole, List.isEmpty_eq_false_iff.mpr h, Bool.false_and]

theorem partText_of_ne_nil (h : n.part ≠ []) : n.partText = '.' :: n.part := by
  rw [partText, List.isEmpty_eq_false_iff.mpr h]
  rfl

/-- A numeral with digits behind the point and no exponent. -/
theorem denotes_pointed (negative : Bool) {whole part : List Char} (hw : AllDigits whole) (hwhole : whole ≠ [])
    (hzero : whole.head? = some '0' → whole = ['0']) (hp : AllDigits part) (hpart : part ≠ [])
    (hdigits : numberOf (whole ++ part) = digits) (hbound : digits ≤ 10 ^ 20)
    (hr : (digits : ℚ) * 10 ^ (-part.length : Int) = r) :
    DenotesDecimal negative (whole ++ '.' :: part) r := by
  have hfalse := isWhole_of_part (n := ⟨negative, whole, part, none⟩) hpart
  refine denotesDecimal (n := ⟨negative, whole, part, none⟩) ?_ hfalse ?_ hdigits hbound ?_
  · exact {
      whole := hw
      nonempty := hwhole
      zero := hzero
      part := hp
      exponent := nofun
      short := fun h => absurd h (Bool.eq_false_iff.mp hfalse) }
  · rw [partText_of_ne_nil hpart]
    exact List.append_nil _
  · rw [← hr, power, zero_sub]

theorem denotes_below_one (negative : Bool) (hd : AllDigits ds) (hne : ds ≠ []) (hbound : numberOf ds ≤ 10 ^ 20)
    (k : Nat) : DenotesDecimal negative ('0' :: '.' :: (zeros k ++ ds))
      (numberOf ds * 10 ^ (-(k + ds.length : ℕ) : Int)) := by
  have hdigits : numberOf (['0'] ++ (zeros k ++ ds)) = numberOf ds := by
    have hzero : numberOf ['0'] = 0 := rfl
    rw [numberOf_append, numberOf_append, numberOf_zeros, hzero]
    omega
  refine denotes_pointed negative (allDigits_zeros 1) (List.cons_ne_nil _ _) (fun _ => rfl)
    ((allDigits_zeros k).append hd) (List.append_ne_nil_of_right_ne_nil _ hne) hdigits hbound ?_
  rw [List.length_append, zeros, List.length_replicate]

theorem denotes_whole (negative : Bool) (hd : AllDigits ds) (hne : ds ≠ []) (hhead : ds.head? ≠ some '0') (k : Nat)
    (hlength : ds.length + k ≤ 16) :
    DenotesDecimal negative (ds ++ zeros k ++ ['.', '0']) (numberOf ds * 10 ^ (k : Int)) := by
  have hdigits : numberOf (ds ++ zeros k ++ ['0']) = numberOf ds * 10 ^ (k + 1) := by
    have hzero : numberOf ['0'] = 0 := rfl
    rw [numberOf_append, numberOf_append, numberOf_zeros, hzero, zeros, List.length_replicate]
    rw [Nat.add_zero, Nat.add_zero, Nat.mul_assoc]
    rfl
  have hbound : numberOf ds * 10 ^ (k + 1) ≤ 10 ^ 20 := by
    calc numberOf ds * 10 ^ (k + 1) ≤ 10 ^ ds.length * 10 ^ (k + 1) :=
          Nat.mul_le_mul_right _ (numberOf_lt hd).le
      _ = 10 ^ (ds.length + (k + 1)) := (Nat.pow_add _ _ _).symm
      _ ≤ 10 ^ 20 := Nat.pow_le_pow_right (by norm_num) (by omega)
  have hzero : (ds ++ zeros k).head? = some '0' → ds ++ zeros k = ['0'] := by
    intro h
    rw [List.head?_append_of_ne_nil _ hne] at h
    exact absurd h hhead
  refine denotes_pointed negative (hd.append (allDigits_zeros k))
    (List.append_ne_nil_of_left_ne_nil hne _) hzero (allDigits_zeros 1) (List.cons_ne_nil _ _)
    hdigits hbound ?_
  push_cast
  rw [mul_assoc, ← zpow_natCast, ← zpow_add₀ (by norm_num)]
  congr 2
  push_cast
  simp

theorem denotes_mixed (negative : Bool) (hd : AllDigits ds) (hhead : ds.head? ≠ some '0')
    (hbound : numberOf ds ≤ 10 ^ 20) {p : Nat} (hp : 0 < p) (hlength : p < ds.length) :
    DenotesDecimal negative (ds.take p ++ '.' :: ds.drop p)
      (numberOf ds * 10 ^ (-(ds.length - p : ℕ) : Int)) := by
  have hhead' : (ds.take p).head? = ds.head? := by
    rw [List.head?_take, if_neg hp.ne']
  have hzero : (ds.take p).head? = some '0' → ds.take p = ['0'] :=
    fun h => absurd (hhead'.symm.trans h) hhead
  have hdigits : numberOf (ds.take p ++ ds.drop p) = numberOf ds := by
    rw [List.take_append_drop]
  refine denotes_pointed negative (fun d h => hd d (List.mem_of_mem_take h)) ?_ hzero
    (fun d h => hd d (List.mem_of_mem_drop h)) ?_ hdigits hbound ?_
  · rw [← List.length_pos_iff, List.length_take]
    omega
  · rw [← List.length_pos_iff, List.length_drop]
    omega
  · rw [List.length_drop]

/-- The digits of an exponent, at least two. -/
def exponentDigits (k : Nat) : List Char :=
  if (Nat.toDigits 10 k).length < 2 then '0' :: Nat.toDigits 10 k else Nat.toDigits 10 k

theorem allDigits_exponentDigits (k : Nat) : AllDigits (exponentDigits k) := by
  have hdigits := allDigits_toDigits k
  unfold exponentDigits
  split
  · exact (allDigits_zeros 1).append hdigits
  · exact hdigits

theorem exponentDigits_ne_nil (k : Nat) : exponentDigits k ≠ [] := by
  unfold exponentDigits
  split
  · exact List.cons_ne_nil _ _
  · exact Nat.toDigits_ne_nil

theorem numberOf_exponentDigits (k : Nat) : numberOf (exponentDigits k) = k := by
  have hdigits := numberOf_toDigits k
  unfold exponentDigits
  split
  · have hzero : numberOf ['0'] = 0 := rfl
    rw [← List.singleton_append, numberOf_append, hzero, Nat.zero_mul, Nat.zero_add, hdigits]
  · exact hdigits

theorem denotes_scientific (negative : Bool) {d : Char} {rest : List Char} (hd : AllDigits (d :: rest))
    (hbound : numberOf (d :: rest) ≤ 10 ^ 20) (e : Int) :
    DenotesDecimal negative
      (d :: (if rest.isEmpty then [] else '.' :: rest) ++
        'e' :: (if e < 0 then '-' else '+') :: exponentDigits e.natAbs)
      (numberOf (d :: rest) * 10 ^ (e - rest.length)) := by
  obtain ⟨hhead, hrest⟩ := List.forall_mem_cons.mp hd
  have hfalse : (Numeral.mk negative [d] rest (some (e < 0, exponentDigits e.natAbs))).isWhole =
      false := Bool.and_false _
  refine denotesDecimal
    (n := ⟨negative, [d], rest, some (e < 0, exponentDigits e.natAbs)⟩) ?_ hfalse ?_ rfl hbound ?_
  · exact {
      whole := List.forall_mem_cons.mpr ⟨hhead, nofun⟩
      nonempty := List.cons_ne_nil _ _
      zero := fun h => by rw [Option.some.inj h]
      part := hrest
      exponent := by
        rintro x hx
        obtain rfl := Option.some.inj hx
        exact ⟨allDigits_exponentDigits _, exponentDigits_ne_nil _⟩
      short := fun h => absurd h (Bool.eq_false_iff.mp hfalse) }
  · unfold partText exponentText
    by_cases he : e < 0
    · simp [he]
    · simp [he]
  · unfold power
    dsimp only
    rw [numberOf_exponentDigits, withSign_natAbs]
    rfl

theorem toList_toString (k : Nat) : (toString k).toList = Nat.toDigits 10 k := Nat.toList_repr

/-- The text of a decimal is a numeral that denotes it. -/
theorem denotes_decimalText (negative : Bool) {c : Nat} (hc : c ≠ 0) (hbound : c ≤ 10 ^ 20) (unit : Int) :
    DenotesDecimal negative (decimalText c unit) (c * 10 ^ unit) := by
  obtain ⟨k, hk⟩ := stripZeros_append (Nat.toDigits 10 c)
  have hall := numberOf_toDigits c
  have hdigits := allDigits_toDigits c
  have hfirst : (Nat.toDigits 10 c).head? ≠ some '0' := fun h => hc (toDigits_of_head?_zero h)
  unfold decimalText
  dsimp only
  rw [toList_toString]
  generalize stripZeros (Nat.toDigits 10 c) = ds at hk ⊢
  rw [hk] at hall hdigits hfirst ⊢
  rw [numberOf_append, numberOf_zeros, zeros, List.length_replicate, Nat.add_zero] at hall
  -- the digits without the zeros at the end: they are some, and the first is no zero
  have hd : AllDigits ds := fun d h => hdigits d (List.mem_append_left _ h)
  have hne : ds ≠ [] := by
    rintro rfl
    exact hc (hall.symm.trans (Nat.zero_mul _))
  have hhead : ds.head? ≠ some '0' := by rwa [List.head?_append_of_ne_nil _ hne] at hfirst
  have hle : numberOf ds ≤ 10 ^ 20 := by
    have hstep : numberOf ds ≤ numberOf ds * 10 ^ k := Nat.le_mul_of_pos_right _ (by positivity)
    omega
  have hlength : ((ds ++ zeros k).length : Int) = ds.length + k := by
    rw [List.length_append, zeros, List.length_replicate]
    push_cast
    rfl
  have hr (e : Int) (he : e = k + unit) : (numberOf ds : ℚ) * 10 ^ e = c * 10 ^ unit := by
    rw [he, ← hall, zpow_add₀ (by norm_num), zpow_natCast]
    push_cast
    ring
  rw [hlength]
  split
  · next hrange =>
    rw [Bool.and_eq_true, decide_eq_true_eq, decide_eq_true_eq] at hrange
    obtain ⟨hlow, hhigh⟩ := hrange
    split
    · next hpoint =>
      have h := denotes_below_one negative hd hne hle (-(ds.length + k + unit)).toNat
      rwa [hr _ (by omega)] at h
    · next hpoint =>
      split
      · have h := denotes_whole negative hd hne hhead
          (ds.length + k + unit - ds.length).toNat (by omega)
        rwa [hr _ (by omega)] at h
      · have h := denotes_mixed negative hd hhead hle
          (p := (ds.length + k + unit).toNat) (by omega) (by omega)
        rwa [hr _ (by omega)] at h
  -- out of range: one digit before the point
  · obtain ⟨d, rest, rfl⟩ := List.exists_cons_of_ne_nil hne
    have h := denotes_scientific negative hd hle ((d :: rest).length + k + unit - 1)
    rw [hr _ (by rw [List.length_cons]; push_cast; ring)] at h
    rw [toList_toString]
    cases rest with
    | nil => exact h
    | cons d' rest => exact h

/-- The spelling of a finite double is a numeral that denotes it. -/
theorem exists_of_view {x : Float} {negative : Bool} {b : Binary}
    (h : floatView x = .finite negative b) :
    ∃ n : Numeral, n.IsWellFormed ∧ n.text = floatChars x ∧ n.value = .float x := by
  have hb := Double.isDouble_of_view h
  have hx := Double.toFloat_of_view h
  unfold floatChars floatText
  simp only [h, String.toList_ofList]
  by_cases hm : b.mantissa = 0
  · have hexponent : b.exponent = -1074 := hb.normal.resolve_right (by omega)
    have hzero : b = ⟨0, -1074⟩ := by
      rw [← hm, ← hexponent]
    have hnumber : numberOf (['0'] ++ ['0']) = 0 := rfl
    obtain ⟨n, hn, htext, digits, exponent, hvalue, -, hr⟩ :=
      denotes_pointed negative (allDigits_zeros 1) (List.cons_ne_nil _ _) (fun _ => rfl)
        (allDigits_zeros 1) (List.cons_ne_nil _ _) hnumber (by norm_num) rfl
    refine ⟨n, hn, ?_, ?_⟩
    · rw [htext, if_pos hm]
      cases negative <;> rfl
    -- the digits of a zero are zeros, with either sign
    · have hdigits : digits = 0 := by
        rw [Nat.cast_zero, zero_mul] at hr
        have hpos := Binary.ten_zpow_pos exponent
        exact_mod_cast (mul_eq_zero.mp hr).resolve_right hpos.ne'
      rw [hvalue, hdigits, floatOfDecimal, if_pos rfl, ← hzero, hx]
  · obtain ⟨hrounds, hbound⟩ := Binary.shortest_rounds hb hm
    obtain ⟨n, hn, htext, digits, exponent, hvalue, hdigits, hr⟩ :=
      denotes_decimalText negative (Binary.shortest_ne_zero hb hm) hbound b.shortest.2
    rw [← hr] at hrounds
    refine ⟨n, hn, ?_, ?_⟩
    · rw [htext, if_neg hm]
      cases negative <;> rfl
    · rw [hvalue, floatOfDecimal_of_rounds hb hm hdigits hrounds, hx]

end Numeral
end Storybind.Json
