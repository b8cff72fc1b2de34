import Mathlib.Tactic
import Mathlib.Data.Rat.Floor
import Storybind.Number.Binary

/-!
Doubles as rational numbers. Every quotient that lies in the rounding interval of a double is rounded
to that double.
-/

namespace Storybind.Binary

variable {num den m : Nat} {e : Int}

theorem two_zpow_pos (e : Int) : (0 : ℚ) < 2 ^ e := zpow_pos (by norm_num) e

theorem two_zpow_le {d e : Int} (h : d ≤ e) : (2 : ℚ) ^ d ≤ 2 ^ e :=
  zpow_le_zpow_right₀ (by norm_num) h

theorem two_zpow_add_one (e : Int) : (2 : ℚ) ^ (e + 1) = 2 * 2 ^ e := by
  rw [zpow_add_one₀ (by norm_num), mul_comm]

/-- A power with a natural number for the exponent, the other way up below zero. -/
theorem zpow_eq_toNat (b : ℚ) {e : Int} (h : 0 ≤ e) : b ^ e = b ^ e.toNat := by
  rw [← zpow_natCast, Int.toNat_of_nonneg h]

theorem zpow_eq_inv_toNat (b : ℚ) {e : Int} (h : e < 0) : b ^ e = (b ^ (-e).toNat)⁻¹ := by
  rw [← zpow_natCast, Int.toNat_of_nonneg (by omega), zpow_neg, inv_inv]

theorem scale2_pos (n : Nat) (e : Int) : 0 < (scale2 n e).2 := by
  unfold scale2
  split
  · exact Nat.one_pos
  · exact Nat.pow_pos (by decide)

theorem scale2_ratio (n : Nat) (e : Int) :
    ((scale2 n e).1 : ℚ) / (scale2 n e).2 = n * 2 ^ e := by
  unfold scale2
  split
  · next h =>
    rw [zpow_eq_toNat 2 h]
    simp
  · next h =>
    rw [zpow_eq_inv_toNat 2 (not_le.mp h), ← div_eq_mul_inv]
    simp

/-- The exact value. -/
def toRat (b : Binary) : ℚ := b.mantissa * 2 ^ b.exponent

theorem ratio_eq (b : Binary) : (b.ratio.1 : ℚ) / b.ratio.2 = b.toRat :=
  scale2_ratio b.mantissa b.exponent

/-! ### The power of two below a quotient -/

theorem two_zpow_le_div_iff (num : Nat) (hd : 0 < den) (k : Int) :
    (if 0 ≤ k then den * Nat.pow 2 k.toNat ≤ num else den ≤ num * Nat.pow 2 (-k).toNat) ↔
      (2 : ℚ) ^ k ≤ num / den := by
  have hden : (0 : ℚ) < den := Nat.cast_pos.mpr hd
  rw [le_div_iff₀ hden]
  split
  · next h =>
    rw [zpow_eq_toNat 2 h, mul_comm]
    exact_mod_cast Iff.rfl
  · next h =>
    rw [zpow_eq_inv_toNat 2 (not_le.mp h), inv_mul_le_iff₀ (by positivity), mul_comm]
    exact_mod_cast Iff.rfl

/-- The quotient of two numbers lies within a factor of two of that of their powers of two. -/
theorem log2_sub_bounds (hn : num ≠ 0) (hd : den ≠ 0) :
    (2 : ℚ) ^ ((Nat.log2 num : Int) - Nat.log2 den - 1) ≤ num / den ∧
      (num : ℚ) / den < 2 ^ ((Nat.log2 num : Int) - Nat.log2 den + 1) := by
  have hden : (0 : ℚ) < den := Nat.cast_pos.mpr (Nat.pos_of_ne_zero hd)
  have hnum_low : (2 : ℚ) ^ (Nat.log2 num : Int) ≤ num := by
    rw [zpow_natCast]
    exact_mod_cast Nat.log2_self_le hn
  have hnum_high : (num : ℚ) < 2 ^ ((Nat.log2 num : Int) + 1) := by
    have h : num < 2 ^ (Nat.log2 num + 1) := Nat.lt_log2_self
    exact_mod_cast h
  have hden_low : (2 : ℚ) ^ (Nat.log2 den : Int) ≤ den := by
    rw [zpow_natCast]
    exact_mod_cast Nat.log2_self_le hd
  have hden_high : (den : ℚ) < 2 ^ ((Nat.log2 den : Int) + 1) := by
    have h : den < 2 ^ (Nat.log2 den + 1) := Nat.lt_log2_self
    exact_mod_cast h
  constructor
  · rw [le_div_iff₀ hden]
    calc (2 : ℚ) ^ ((Nat.log2 num : Int) - Nat.log2 den - 1) * den
        ≤ 2 ^ ((Nat.log2 num : Int) - Nat.log2 den - 1) * 2 ^ ((Nat.log2 den : Int) + 1) :=
          mul_le_mul_of_nonneg_left hden_high.le (two_zpow_pos _).le
      _ = 2 ^ (Nat.log2 num : Int) := by
          rw [← zpow_add₀ (by norm_num)]
          congr 1
          ring
      _ ≤ num := hnum_low
  · rw [div_lt_iff₀ hden]
    calc (num : ℚ) < 2 ^ ((Nat.log2 num : Int) + 1) := hnum_high
      _ = 2 ^ ((Nat.log2 num : Int) - Nat.log2 den + 1) * 2 ^ (Nat.log2 den : Int) := by
          rw [← zpow_add₀ (by norm_num)]
          congr 1
          ring
      _ ≤ 2 ^ ((Nat.log2 num : Int) - Nat.log2 den + 1) * den :=
          mul_le_mul_of_nonneg_left hden_low (two_zpow_pos _).le

theorem floorLog2_bounds (hn : num ≠ 0) (hd : den ≠ 0) :
    (2 : ℚ) ^ floorLog2 num den ≤ num / den ∧ (num : ℚ) / den < 2 ^ (floorLog2 num den + 1) := by
  obtain ⟨hlow, hhigh⟩ := log2_sub_bounds hn hd
  have hiff := two_zpow_le_div_iff num (Nat.pos_of_ne_zero hd)
    ((Nat.log2 num : Int) - Nat.log2 den)
  unfold floorLog2
  dsimp only
  by_cases h : (2 : ℚ) ^ ((Nat.log2 num : Int) - Nat.log2 den) ≤ num / den
  · rw [if_pos (hiff.mpr h)]
    exact ⟨h, hhigh⟩
  · rw [if_neg (mt hiff.mp h), sub_add_cancel]
    exact ⟨hlow, not_le.mp h⟩

/-- The power of two at or below a quotient is the only one with the quotient below its double. -/
theorem floorLog2_eq (hn : num ≠ 0) (hd : den ≠ 0) {k : Int} (hlow : (2 : ℚ) ^ k ≤ num / den)
    (hhigh : (num : ℚ) / den < 2 ^ (k + 1)) : floorLog2 num den = k := by
  obtain ⟨hfloor, hceil⟩ := floorLog2_bounds hn hd
  have hle : k < floorLog2 num den + 1 :=
    (zpow_lt_zpow_iff_right₀ (by norm_num)).mp (hlow.trans_lt hceil)
  have hge : floorLog2 num den < k + 1 :=
    (zpow_lt_zpow_iff_right₀ (by norm_num)).mp (hfloor.trans_lt hhigh)
  omega

/-! ### Rounding -/

/-- A quotient within half of a number is rounded to it, at exactly a half if it is even. -/
theorem roundDiv_eq (hd : 0 < den) (hlow : (m : ℚ) - 1 / 2 ≤ num / den)
    (hhigh : (num : ℚ) / den ≤ m + 1 / 2)
    (hodd : m % 2 = 1 → (m : ℚ) - 1 / 2 < num / den ∧ (num : ℚ) / den < m + 1 / 2) :
    roundDiv num den = m := by
  have hden : (0 : ℚ) < den := Nat.cast_pos.mpr hd
  have hsplit : num = den * (num / den) + num % den := (Nat.div_add_mod num den).symm
  have hrest : num % den < den := Nat.mod_lt num hd
  have hlow' : 2 * (m * den) ≤ 2 * num + den := by
    rw [le_div_iff₀ hden] at hlow
    have h : (2 : ℚ) * (m * den) ≤ 2 * num + den := by linarith
    exact_mod_cast h
  have hhigh' : 2 * num ≤ 2 * (m * den) + den := by
    rw [div_le_iff₀ hden] at hhigh
    have h : (2 : ℚ) * num ≤ 2 * (m * den) + den := by linarith
    exact_mod_cast h
  have hodd' : m % 2 = 1 → 2 * (m * den) < 2 * num + den ∧ 2 * num < 2 * (m * den) + den := by
    intro hm
    obtain ⟨hl, hh⟩ := hodd hm
    rw [lt_div_iff₀ hden] at hl
    rw [div_lt_iff₀ hden] at hh
    constructor
    · have h : (2 : ℚ) * (m * den) < 2 * num + den := by linarith
      exact_mod_cast h
    · have h : (2 : ℚ) * num < 2 * (m * den) + den := by linarith
      exact_mod_cast h
  unfold roundDiv
  dsimp only
  generalize num / den = q at hsplit ⊢
  generalize num % den = r at hsplit hrest ⊢
  rw [Nat.mul_comm] at hsplit
  -- the floor of the quotient is the number or the one below it
  rcases Nat.lt_trichotomy m q with hlt | rfl | hgt
  · have hstep : (m + 1) * den ≤ q * den := Nat.mul_le_mul_right den hlt
    rw [Nat.add_mul] at hstep
    omega
  · -- within half above
    split
    · rfl
    · split
      · omega
      · omega
  · obtain rfl | hfar : m = q + 1 ∨ q + 2 ≤ m := by omega
    · rw [Nat.add_mul] at hlow' hhigh' hodd'
      split
      · omega
      · split
        · rfl
        · omega
    · have hstep : (q + 2) * den ≤ m * den := Nat.mul_le_mul_right den hfar
      rw [Nat.add_mul] at hstep
      omega

/-- The quotient at a power of two, rounded. -/
theorem roundAt_eq (num : Nat) (hd : 0 < den) (s : Int) : ∃ p : Nat × Nat, 0 < p.2 ∧
    (p.1 : ℚ) / p.2 = num / den / 2 ^ s ∧
    (if 0 ≤ s then roundDiv num (den * Nat.pow 2 s.toNat)
      else roundDiv (num * Nat.pow 2 (-s).toNat) den) = roundDiv p.1 p.2 := by
  split
  · next h =>
    refine ⟨(num, den * Nat.pow 2 s.toNat), Nat.mul_pos hd (Nat.pow_pos (by decide)), ?_, rfl⟩
    rw [zpow_eq_toNat 2 h, div_div]
    simp
  · next h =>
    refine ⟨(num * Nat.pow 2 (-s).toNat, den), hd, ?_, rfl⟩
    rw [zpow_eq_inv_toNat 2 (not_le.mp h), div_inv_eq_mul, div_mul_eq_mul_div]
    simp

/-! ### Rounding intervals -/

/-- A finite double: the mantissa is short, and long enough unless the exponent is the least. -/
structure IsDouble (b : Binary) : Prop where
  mantissa_lt : b.mantissa < 2 ^ 53
  least : -1074 ≤ b.exponent
  greatest : b.exponent ≤ 971
  normal : b.exponent = -1074 ∨ 2 ^ 52 ≤ b.mantissa

/-- Whether the double below is at half the distance of the one above. -/
def IsLowestOfBinade (b : Binary) : Prop := b.mantissa = 2 ^ 52 ∧ -1074 < b.exponent

instance (b : Binary) : Decidable b.IsLowestOfBinade :=
  inferInstanceAs (Decidable (_ ∧ _))

/-- How far below a double what is rounded to it reaches, in places. -/
def reach (b : Binary) : ℚ := if b.IsLowestOfBinade then 1 / 4 else 1 / 2

/-- Whether a number is rounded to a double: it is within half of the distance to the next ones, at
exactly a half if the mantissa is even. -/
structure Rounds (b : Binary) (r : ℚ) : Prop where
  low : (b.mantissa - b.reach) * 2 ^ b.exponent ≤ r
  high : r ≤ (b.mantissa + 1 / 2) * 2 ^ b.exponent
  odd : b.mantissa % 2 = 1 →
    (b.mantissa - b.reach) * 2 ^ b.exponent < r ∧ r < (b.mantissa + 1 / 2) * 2 ^ b.exponent

variable {b : Binary}

theorem reach_le (b : Binary) : b.reach ≤ 1 / 2 := by
  unfold reach
  split <;> norm_num

theorem reach_pos (b : Binary) : 0 < b.reach := by
  unfold reach
  split <;> norm_num

theorem IsDouble.mantissa_add_half (hb : b.IsDouble) :
    (b.mantissa : ℚ) + 1 / 2 < 2 ^ (53 : Int) := by
  have h : (b.mantissa : ℚ) + 1 ≤ 2 ^ 53 := by exact_mod_cast hb.mantissa_lt
  have hpow : (2 : ℚ) ^ (53 : Int) = 2 ^ 53 := by norm_num
  linarith

/-- What is rounded to a double lies below the next power of two. -/
theorem Rounds.lt_binade (hb : b.IsDouble) {r : ℚ} (h : b.Rounds r) :
    r < 2 ^ (52 + b.exponent + 1) := by
  calc r ≤ (b.mantissa + 1 / 2) * 2 ^ b.exponent := h.high
    _ < 2 ^ (53 : Int) * 2 ^ b.exponent :=
      mul_lt_mul_of_pos_right hb.mantissa_add_half (two_zpow_pos _)
    _ = 2 ^ (52 + b.exponent + 1) := by
      rw [← zpow_add₀ (by norm_num)]
      congr 1
      ring

theorem ofRatio?_eq (hn : num ≠ 0) (hd : 0 < den)
    (hexponent : max (floorLog2 num den - 52) (-1074) = e)
    (hlow : (m : ℚ) - 1 / 2 ≤ num / den / 2 ^ e) (hhigh : (num : ℚ) / den / 2 ^ e ≤ m + 1 / 2)
    (hodd : m % 2 = 1 →
      (m : ℚ) - 1 / 2 < num / den / 2 ^ e ∧ (num : ℚ) / den / 2 ^ e < m + 1 / 2)
    (hfits : e < 971 ∨ e = 971 ∧ m < 2 ^ 53) : ofRatio? num den = some ⟨m, e⟩ := by
  obtain ⟨p, hp, hratio, hround⟩ := roundAt_eq num hd e
  rw [← hratio] at hlow hhigh hodd
  unfold ofRatio?
  rw [if_neg hn]
  dsimp only
  rw [hexponent, hround, roundDiv_eq hp hlow hhigh hodd, if_neg]
  have hpow : Nat.pow 2 53 = 2 ^ 53 := rfl
  rw [hpow]
  simp only [Bool.or_eq_true, Bool.and_eq_true, decide_eq_true_eq]
  omega

/-- What is rounded to a double and is not below its binade keeps its exponent. -/
theorem ofRatio?_of_binade (hb : b.IsDouble) (hn : num ≠ 0) (hd : 0 < den)
    (h : b.Rounds (num / den))
    (hbinade : b.exponent = -1074 ∨ (2 : ℚ) ^ (52 + b.exponent) ≤ num / den) :
    ofRatio? num den = some b := by
  have hpos := two_zpow_pos b.exponent
  have htop := h.lt_binade hb
  have hreach := b.reach_le
  -- the power of two at the quotient is at most that of the double
  have hfloor : floorLog2 num den < 52 + b.exponent + 1 :=
    (zpow_lt_zpow_iff_right₀ (by norm_num)).mp
      ((floorLog2_bounds hn hd.ne').1.trans_lt htop)
  have hexponent : max (floorLog2 num den - 52) (-1074) = b.exponent := by
    rcases hbinade with hleast | hge
    · omega
    · have hlog := floorLog2_eq hn hd.ne' hge htop
      have hleast := hb.least
      omega
  refine ofRatio?_eq hn hd hexponent ?_ ?_ ?_ ?_
  · rw [le_div_iff₀ hpos]
    refine le_trans ?_ h.low
    gcongr
  · rw [div_le_iff₀ hpos]
    exact h.high
  · intro hm
    obtain ⟨hl, hh⟩ := h.odd hm
    constructor
    · rw [lt_div_iff₀ hpos]
      refine lt_of_le_of_lt ?_ hl
      gcongr
    · rwa [div_lt_iff₀ hpos]
  · have hgreatest := hb.greatest
    have hmantissa := hb.mantissa_lt
    omega

/-- What is rounded up into a binade comes out with the mantissa that is one too long. -/
theorem ofRatio?_below_binade (hb : b.IsDouble) (hn : num ≠ 0) (hd : 0 < den)
    (h : b.Rounds (num / den)) (hnormal : -1074 < b.exponent)
    (hbelow : (num : ℚ) / den < 2 ^ (52 + b.exponent)) :
    b.mantissa = 2 ^ 52 ∧ ofRatio? num den = some ⟨2 ^ 53, b.exponent - 1⟩ := by
  have hpos := two_zpow_pos (b.exponent - 1)
  have hdouble : (2 : ℚ) ^ b.exponent = 2 * 2 ^ (b.exponent - 1) := by
    rw [← two_zpow_add_one, sub_add_cancel]
  have hbinade : (2 : ℚ) ^ (52 + b.exponent) = 2 ^ 53 * 2 ^ (b.exponent - 1) := by
    rw [zpow_add₀ (by norm_num), hdouble]
    norm_num
    ring
  have hshort : 2 ^ 52 ≤ b.mantissa := hb.normal.resolve_left (by omega)
  -- with any longer mantissa half a place would not lead out of the binade
  have hmantissa : b.mantissa = 2 ^ 52 := by
    by_contra hne
    have hlong : (2 : ℚ) ^ 52 + 1 ≤ b.mantissa := by exact_mod_cast (by omega : 2 ^ 52 + 1 ≤ b.mantissa)
    have hlow := h.low
    have hreach := b.reach_le
    rw [hdouble] at hlow
    rw [hbinade] at hbelow
    nlinarith
  refine ⟨hmantissa, ?_⟩
  have hreach : b.reach = 1 / 4 := if_pos ⟨hmantissa, hnormal⟩
  have hlow : ((2 : ℚ) ^ 53 - 1 / 2) * 2 ^ (b.exponent - 1) ≤ num / den := by
    have hlow := h.low
    rw [hmantissa, hreach, hdouble] at hlow
    push_cast at hlow
    linarith
  have hlog : floorLog2 num den = 51 + b.exponent := by
    refine floorLog2_eq hn hd.ne' (le_trans ?_ hlow) ?_
    · have hhalf : (2 : ℚ) ^ (51 + b.exponent) = 2 ^ 52 * 2 ^ (b.exponent - 1) := by
        rw [zpow_add₀ (by norm_num), hdouble]
        norm_num
        ring
      rw [hhalf]
      exact mul_le_mul_of_nonneg_right (by norm_num) hpos.le
    · have hnext : 51 + b.exponent + 1 = 52 + b.exponent := by ring
      rwa [hnext]
  rw [hbinade] at hbelow
  refine ofRatio?_eq hn hd (by omega) ?_ ?_ ?_ ?_
  · rw [le_div_iff₀ hpos]
    push_cast
    exact hlow
  · rw [div_le_iff₀ hpos]
    push_cast
    nlinarith
  · intro hodd
    norm_num at hodd
  · have hgreatest := hb.greatest
    omega

/-- The double that a quotient in the rounding interval of a double is read as. -/
theorem ofRatio?_of_rounds (hb : b.IsDouble) (hn : num ≠ 0) (hd : 0 < den)
    (h : b.Rounds (num / den)) : ∃ b', ofRatio? num den = some b' ∧ b'.bits = b.bits := by
  by_cases hbinade : b.exponent = -1074 ∨ (2 : ℚ) ^ (52 + b.exponent) ≤ num / den
  · exact ⟨b, ofRatio?_of_binade hb hn hd h hbinade, rfl⟩
  · obtain ⟨hleast, hbelow⟩ := not_or.mp hbinade
    have hnormal : -1074 < b.exponent := lt_of_le_of_ne hb.least (Ne.symm hleast)
    obtain ⟨hmantissa, hread⟩ :=
      ofRatio?_below_binade hb hn hd h hnormal (not_le.mp hbelow)
    refine ⟨⟨2 ^ 53, b.exponent - 1⟩, hread, ?_⟩
    -- the carry out of the mantissa goes into the exponent
    have hpow : Nat.pow 2 52 = 4503599627370496 := rfl
    unfold bits
    dsimp only
    rw [hmantissa, hpow]
    omega

end Storybind.Binary
