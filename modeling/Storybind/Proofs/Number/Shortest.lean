import Storybind.Number.Reading
import Storybind.Number.Shortest
import Storybind.Proofs.Number.Binary

/-!
The shortest decimal of a double reads back: the search finds a grid with a point in the rounding
interval, as the seventeenth one is finer than the interval is wide. A decimal in the rounding interval
is read as that double, for neither of the shortcuts for numbers out of range is taken.
-/

namespace Storybind.Binary

variable {b : Binary} {unit : Int} {c : Nat}

theorem ten_zpow_pos (e : Int) : (0 : ℚ) < 10 ^ e := zpow_pos (by norm_num) e

theorem inUnits_pos (n : Nat) (e unit : Int) : 0 < (inUnits n e unit).2 := by
  unfold inUnits
  dsimp only
  split
  · exact Nat.mul_pos (scale2_pos n _) (Nat.pow_pos (by decide))
  · exact scale2_pos n _

theorem inUnits_ratio (n : Nat) (e unit : Int) :
    ((inUnits n e unit).1 : ℚ) / (inUnits n e unit).2 = n * 2 ^ (e - 2) / 10 ^ unit := by
  rw [← scale2_ratio]
  unfold inUnits
  dsimp only
  split
  · next h =>
    rw [zpow_eq_toNat 10 h, div_div]
    simp
  · next h =>
    rw [zpow_eq_inv_toNat 10 (not_le.mp h), div_inv_eq_mul, div_mul_eq_mul_div]
    simp

theorem quarter_zpow (e : Int) : (2 : ℚ) ^ e = 4 * 2 ^ (e - 2) := by
  have h : e = e - 2 + 2 := by ring
  conv_lhs => rw [h, zpow_add₀ (by norm_num)]
  norm_num
  ring

/-- The lower end of what reads back is the lower end of the rounding interval. -/
theorem lowest_eq (hm : b.mantissa ≠ 0) :
    (b.lowest : ℚ) * 2 ^ (b.exponent - 2) = (b.mantissa - b.reach) * 2 ^ b.exponent := by
  rw [quarter_zpow b.exponent, ← mul_assoc]
  congr 1
  have hone : 1 ≤ 4 * b.mantissa := by omega
  have htwo : 2 ≤ 4 * b.mantissa := by omega
  have hiff : (b.mantissa = Nat.pow 2 52 && -1074 < b.exponent) = true ↔ b.IsLowestOfBinade := by
    rw [Bool.and_eq_true, decide_eq_true_eq, decide_eq_true_eq]
    rfl
  unfold lowest reach
  by_cases h : b.IsLowestOfBinade
  · rw [if_pos h, if_pos (hiff.mpr h), Nat.cast_sub hone]
    push_cast
    ring
  · rw [if_neg h, if_neg (mt hiff.mp h), Nat.cast_sub htwo]
    push_cast
    ring

theorem highest_eq (b : Binary) :
    (b.highest : ℚ) * 2 ^ (b.exponent - 2) = (b.mantissa + 1 / 2) * 2 ^ b.exponent := by
  rw [quarter_zpow b.exponent, ← mul_assoc, highest]
  congr 1
  push_cast
  ring

theorem inUnits_le_iff (n : Nat) (e unit : Int) (c : Nat) :
    (inUnits n e unit).1 ≤ c * (inUnits n e unit).2 ↔ (n : ℚ) * 2 ^ (e - 2) ≤ c * 10 ^ unit := by
  have hpos : (0 : ℚ) < (inUnits n e unit).2 := Nat.cast_pos.mpr (inUnits_pos n e unit)
  rw [← div_le_iff₀ (ten_zpow_pos unit), ← inUnits_ratio, div_le_iff₀ hpos]
  exact_mod_cast Iff.rfl

theorem le_inUnits_iff (n : Nat) (e unit : Int) (c : Nat) :
    c * (inUnits n e unit).2 ≤ (inUnits n e unit).1 ↔ (c : ℚ) * 10 ^ unit ≤ n * 2 ^ (e - 2) := by
  have hpos : (0 : ℚ) < (inUnits n e unit).2 := Nat.cast_pos.mpr (inUnits_pos n e unit)
  rw [← le_div_iff₀ (ten_zpow_pos unit), ← inUnits_ratio, le_div_iff₀ hpos]
  exact_mod_cast Iff.rfl

/-- The check for reading back tells the numbers of the rounding interval. -/
theorem readsBack_iff (hm : b.mantissa ≠ 0) :
    b.readsBack unit c = true ↔ b.Rounds (c * 10 ^ unit) := by
  have hlow := inUnits_le_iff b.lowest b.exponent unit c
  have hhigh := le_inUnits_iff b.highest b.exponent unit c
  have hbelow := le_inUnits_iff b.lowest b.exponent unit c
  have habove := inUnits_le_iff b.highest b.exponent unit c
  rw [lowest_eq hm] at hlow hbelow
  rw [highest_eq] at hhigh habove
  unfold readsBack
  dsimp only
  by_cases heven : b.mantissa % 2 = 0
  · rw [if_pos heven, Bool.and_eq_true, decide_eq_true_eq, decide_eq_true_eq, hlow, hhigh]
    refine ⟨fun h => ⟨h.1, h.2, by omega⟩, fun h => ⟨h.low, h.high⟩⟩
  · have hodd : b.mantissa % 2 = 1 := by omega
    rw [if_neg heven, Bool.and_eq_true, decide_eq_true_eq, decide_eq_true_eq, ← not_le,
      ← not_le, hbelow, habove, not_le, not_le]
    exact ⟨fun h => ⟨h.1.le, h.2.le, fun _ => h⟩, fun h => h.odd hodd⟩

/-! ### One grid -/

/-- The multiple of a power of ten at or below a double. -/
def floorAt (b : Binary) (unit : Int) : Nat :=
  (inUnits (4 * b.mantissa) b.exponent unit).1 / (inUnits (4 * b.mantissa) b.exponent unit).2

theorem floorAt_bounds (b : Binary) (unit : Int) :
    (b.floorAt unit : ℚ) * 10 ^ unit ≤ b.toRat ∧ b.toRat < (b.floorAt unit + 1 : ℕ) * 10 ^ unit := by
  have hratio : b.toRat = (4 * b.mantissa : ℕ) * 2 ^ (b.exponent - 2) := by
    rw [toRat, quarter_zpow b.exponent]
    push_cast
    ring
  rw [hratio]
  constructor
  · exact (le_inUnits_iff _ _ _ _).mp (Nat.div_mul_le_self _ _)
  · rw [← not_le, ← le_inUnits_iff, not_le]
    exact Nat.lt_mul_of_div_lt (Nat.lt_succ_self _) (inUnits_pos _ _ _)

theorem gridPoint?_eq_some (h : b.gridPoint? unit = some c) :
    b.readsBack unit c = true ∧ (c = b.floorAt unit ∨ c = b.floorAt unit + 1) := by
  unfold gridPoint? at h
  dsimp only at h
  rw [← floorAt] at h
  split at h
  · cases h
  · next hbelow _ =>
    obtain rfl := Option.some.inj h
    exact ⟨hbelow, Or.inl rfl⟩
  · next _ habove =>
    obtain rfl := Option.some.inj h
    exact ⟨habove, Or.inr rfl⟩
  · next hbelow habove =>
    -- where both neighbours read back, whichever is chosen reads back
    have hc : c = b.floorAt unit ∨ c = b.floorAt unit + 1 := by
      split at h
      · exact Or.inl (Option.some.inj h).symm
      · split at h
        · exact Or.inr (Option.some.inj h).symm
        · have hc := Option.some.inj h
          split at hc
          · exact Or.inl hc.symm
          · exact Or.inr hc.symm
    refine ⟨?_, hc⟩
    rcases hc with rfl | rfl
    · exact hbelow
    · exact habove

theorem gridPoint?_eq_none (h : b.gridPoint? unit = none) :
    b.readsBack unit (b.floorAt unit) = false ∧
      b.readsBack unit (b.floorAt unit + 1) = false := by
  unfold gridPoint? at h
  dsimp only at h
  rw [← floorAt] at h
  split at h
  · next hbelow habove => exact ⟨hbelow, habove⟩
  · cases h
  · cases h
  · split at h
    · cases h
    · split at h <;> cases h

/-- What lies strictly between the ends of the rounding interval is rounded to the double. -/
theorem rounds_of_between {r : ℚ} (hlow : (b.mantissa - b.reach) * 2 ^ b.exponent < r)
    (hhigh : r < (b.mantissa + 1 / 2) * 2 ^ b.exponent) : b.Rounds r :=
  ⟨hlow.le, hhigh.le, fun _ => ⟨hlow, hhigh⟩⟩

/-- A grid finer than the rounding interval is wide has a point that reads back. -/
theorem gridPoint?_ne_none (hm : b.mantissa ≠ 0)
    (hfine : (10 : ℚ) ^ unit < (b.reach + 1 / 2) * 2 ^ b.exponent) : b.gridPoint? unit ≠ none := by
  intro h
  obtain ⟨hbelow, habove⟩ := gridPoint?_eq_none h
  obtain ⟨hle, hlt⟩ := floorAt_bounds b unit
  rw [← Bool.not_eq_true, readsBack_iff hm] at hbelow habove
  have hpos := two_zpow_pos b.exponent
  have hreach := b.reach_pos
  rw [toRat] at hle hlt
  -- the points around the double lie outside, so the interval fits between them
  have hlow : b.floorAt unit * (10 : ℚ) ^ unit ≤ (b.mantissa - b.reach) * 2 ^ b.exponent := by
    by_contra hcon
    exact hbelow (rounds_of_between (not_le.mp hcon) (by nlinarith))
  have hhigh : (b.mantissa + 1 / 2) * 2 ^ b.exponent ≤ (b.floorAt unit + 1 : ℕ) * (10 : ℚ) ^ unit := by
    by_contra hcon
    exact habove (rounds_of_between (by nlinarith) (not_le.mp hcon))
  push_cast at hhigh
  linarith

/-- The grid with sixteen digits behind the first one is finer than the rounding interval is wide. -/
theorem seventeenth_fine (hb : b.IsDouble) {e : Int} (he : (10 : ℚ) ^ e ≤ b.toRat) :
    (10 : ℚ) ^ (e - 16) < (b.reach + 1 / 2) * 2 ^ b.exponent := by
  have hpos := two_zpow_pos b.exponent
  have hshift : (10 : ℚ) ^ e = 10 ^ 16 * 10 ^ (e - 16) := by
    rw [zpow_sub₀ (by norm_num)]
    norm_num
    ring
  rw [hshift, toRat] at he
  unfold reach
  split
  · next h =>
    rw [h.1] at he
    push_cast at he
    linarith
  · have hmantissa : (b.mantissa : ℚ) < 2 ^ 53 := by exact_mod_cast hb.mantissa_lt
    have hbound : (b.mantissa : ℚ) * 2 ^ b.exponent < 2 ^ 53 * 2 ^ b.exponent :=
      mul_lt_mul_of_pos_right hmantissa hpos
    linarith

/-! ### The search -/

/-- The search ends at a grid with a point that reads back, if the last one tried has one. -/
theorem searchGrid_eq {k : Nat} (h : b.gridPoint? (unit - k) ≠ none) :
    ∃ j ≤ k, b.gridPoint? (unit - j) = some (b.searchGrid (k + 1) unit).1 ∧
      (b.searchGrid (k + 1) unit).2 = unit - j := by
  induction k generalizing unit with
  | zero =>
    rw [Nat.cast_zero, sub_zero] at h
    obtain ⟨c, hc⟩ := Option.ne_none_iff_exists'.mp h
    refine ⟨0, le_rfl, ?_⟩
    rw [Nat.cast_zero, sub_zero, searchGrid, hc]
    exact ⟨rfl, rfl⟩
  | succ k ih =>
    cases hgrid : b.gridPoint? unit with
    | some c =>
      refine ⟨0, Nat.zero_le _, ?_⟩
      rw [Nat.cast_zero, sub_zero, searchGrid, hgrid]
      exact ⟨rfl, rfl⟩
    | none =>
      -- a grid without a point is passed over for the next finer one
      have hnext : unit - (k + 1 : ℕ) = unit - 1 - k := by
        push_cast
        ring
      rw [hnext] at h
      obtain ⟨j, hj, hpoint, hunit⟩ := ih h
      refine ⟨j + 1, by omega, ?_⟩
      have hstep : unit - (j + 1 : ℕ) = unit - 1 - j := by
        push_cast
        ring
      have hsearch : b.searchGrid (k + 1 + 1) unit = b.searchGrid (k + 1) (unit - 1) := by
        rw [searchGrid, hgrid]
      rw [hstep, hsearch]
      exact ⟨hpoint, hunit⟩

/-! ### The power of ten below a double -/

theorem atLeastPow10_iff (num : Nat) {den : Nat} (hd : 0 < den) (e : Int) :
    atLeastPow10 num den e = true ↔ (10 : ℚ) ^ e ≤ num / den := by
  have hden : (0 : ℚ) < den := Nat.cast_pos.mpr hd
  rw [le_div_iff₀ hden]
  unfold atLeastPow10
  split
  · next h =>
    rw [zpow_eq_toNat 10 h, mul_comm, decide_eq_true_eq]
    exact_mod_cast Iff.rfl
  · next h =>
    rw [zpow_eq_inv_toNat 10 (not_le.mp h), inv_mul_le_iff₀ (by positivity), mul_comm,
      decide_eq_true_eq]
    exact_mod_cast Iff.rfl

/-- The approximation of the logarithm, at all exponents that a double may have. -/
theorem pow_bounds : ∀ k < 1100, 10 ^ (k * 30103 / 100000) ≤ 10 * 2 ^ k ∧
    2 ^ k ≤ 10 ^ (k * 30103 / 100000 + 1) := by
  decide +kernel

theorem log10_bounds {k : Int} (hlow : -1100 < k) (hhigh : k < 1100) :
    (10 : ℚ) ^ (Int.fdiv (k * 30103) 100000 - 1) ≤ 2 ^ k ∧
      (2 : ℚ) ^ k ≤ 10 ^ (Int.fdiv (k * 30103) 100000 + 2) := by
  rw [Int.fdiv_eq_ediv_of_nonneg _ (by norm_num)]
  obtain ⟨n, hn⟩ := k.eq_nat_or_neg
  obtain ⟨hten, htwo⟩ := pow_bounds n (by omega)
  have hten' : (10 : ℚ) ^ ((n * 30103 / 100000 : ℕ) - 1 : Int) ≤ 2 ^ (n : Int) := by
    have hcast : (10 : ℚ) ^ (n * 30103 / 100000) ≤ 10 * 2 ^ n := by exact_mod_cast hten
    rw [zpow_sub_one₀ (by norm_num), zpow_natCast, zpow_natCast]
    linarith
  have htwo' : (2 : ℚ) ^ (n : Int) ≤ 10 ^ ((n * 30103 / 100000 : ℕ) + 1 : Int) := by
    exact_mod_cast htwo
  rcases hn with rfl | rfl
  · constructor
    · exact hten'
    · exact htwo'.trans (zpow_le_zpow_right₀ (by norm_num) (by omega))
  · -- below zero the bounds change places
    rw [zpow_neg]
    constructor
    · calc (10 : ℚ) ^ (-(n : Int) * 30103 / 100000 - 1)
          ≤ 10 ^ (-((n * 30103 / 100000 : ℕ) + 1) : Int) :=
            zpow_le_zpow_right₀ (by norm_num) (by omega)
        _ = (10 ^ ((n * 30103 / 100000 : ℕ) + 1 : Int))⁻¹ := zpow_neg _ _
        _ ≤ (2 ^ (n : Int))⁻¹ := inv_anti₀ (two_zpow_pos _) htwo'
    · calc ((2 : ℚ) ^ (n : Int))⁻¹
          ≤ (10 ^ ((n * 30103 / 100000 : ℕ) - 1 : Int))⁻¹ := inv_anti₀ (ten_zpow_pos _) hten'
        _ = 10 ^ (-((n * 30103 / 100000 : ℕ) - 1) : Int) := (zpow_neg _ _).symm
        _ ≤ 10 ^ (-(n : Int) * 30103 / 100000 + 2) :=
            zpow_le_zpow_right₀ (by norm_num) (by omega)

theorem floorLog10_bounds {num den : Nat} (hn : num ≠ 0) (hd : den ≠ 0)
    (hlow : -1100 < floorLog2 num den) (hhigh : floorLog2 num den < 1100) :
    (10 : ℚ) ^ floorLog10 num den ≤ num / den ∧
      (num : ℚ) / den < 10 ^ (floorLog10 num den + 4) := by
  obtain ⟨hfloor, hceil⟩ := floorLog2_bounds hn hd
  obtain ⟨hten, htwo⟩ := log10_bounds hlow hhigh
  have hiff (e : Int) := atLeastPow10_iff num (Nat.pos_of_ne_zero hd) e
  unfold floorLog10
  dsimp only
  generalize Int.fdiv (floorLog2 num den * 30103) 100000 = e at hten htwo ⊢
  -- the estimate is never more than one too high, nor three too low
  have hupper : (num : ℚ) / den < 10 ^ (e + 3) := by
    have hpos := ten_zpow_pos (e + 2)
    have hnext : (10 : ℚ) ^ (e + 3) = 10 * 10 ^ (e + 2) := by
      rw [← zpow_one_add₀ (by norm_num)]
      congr 1
      ring
    rw [two_zpow_add_one] at hceil
    linarith
  have hup {d : Int} (hd : e + 3 ≤ d) : (num : ℚ) / den < 10 ^ d :=
    hupper.trans_le (zpow_le_zpow_right₀ (by norm_num) hd)
  split
  · next h => exact ⟨(hiff _).mp h, hup (by omega)⟩
  · split
    · next h => exact ⟨(hiff _).mp h, hup (by omega)⟩
    · exact ⟨hten.trans hfloor, hup (by omega)⟩

theorem toRat_bounds (hb : b.IsDouble) (hm : b.mantissa ≠ 0) :
    (2 : ℚ) ^ (-1074 : Int) ≤ b.toRat ∧ b.toRat < 2 ^ (1024 : Int) := by
  have hpos := two_zpow_pos b.exponent
  constructor
  · have hone : (1 : ℚ) ≤ b.mantissa := by exact_mod_cast Nat.one_le_iff_ne_zero.mpr hm
    calc (2 : ℚ) ^ (-1074 : Int) ≤ 2 ^ b.exponent := two_zpow_le hb.least
      _ ≤ b.toRat := le_mul_of_one_le_left hpos.le hone
  · have hlt : (b.mantissa : ℚ) < 2 ^ (53 : Int) := by
      have hmantissa := hb.mantissa_lt
      exact_mod_cast hmantissa
    calc b.toRat < 2 ^ (53 : Int) * 2 ^ b.exponent := mul_lt_mul_of_pos_right hlt hpos
      _ = 2 ^ (53 + b.exponent) := (zpow_add₀ (by norm_num) _ _).symm
      _ ≤ 2 ^ (1024 : Int) := two_zpow_le (by have hgreatest := hb.greatest; omega)

/-- The power of ten from which the search starts is not above the double, nor far below it. -/
theorem firstUnit_bounds (hb : b.IsDouble) (hm : b.mantissa ≠ 0) :
    (10 : ℚ) ^ floorLog10 b.ratio.1 b.ratio.2 ≤ b.toRat ∧
      b.toRat < 10 ^ (floorLog10 b.ratio.1 b.ratio.2 + 4) := by
  have hd : b.ratio.2 ≠ 0 := (scale2_pos _ _).ne'
  obtain ⟨hleast, hgreatest⟩ := toRat_bounds hb hm
  have hpos : 0 < b.toRat := (two_zpow_pos _).trans_le hleast
  have hn : b.ratio.1 ≠ 0 := by
    intro hzero
    rw [← ratio_eq, hzero] at hpos
    simp at hpos
  obtain ⟨hfloor, hceil⟩ := floorLog2_bounds hn hd
  rw [ratio_eq] at hfloor hceil
  have hlow : -1074 < floorLog2 b.ratio.1 b.ratio.2 + 1 :=
    (zpow_lt_zpow_iff_right₀ (by norm_num : (1 : ℚ) < 2)).mp (hleast.trans_lt hceil)
  have hhigh : floorLog2 b.ratio.1 b.ratio.2 < 1024 :=
    (zpow_lt_zpow_iff_right₀ (by norm_num : (1 : ℚ) < 2)).mp (hfloor.trans_lt hgreatest)
  have hbounds := floorLog10_bounds hn hd (by omega) (by omega)
  rwa [ratio_eq] at hbounds

/-- The shortest decimal of a double is rounded to it. -/
theorem shortest_rounds (hb : b.IsDouble) (hm : b.mantissa ≠ 0) :
    b.Rounds (b.shortest.1 * 10 ^ b.shortest.2) ∧ b.shortest.1 ≤ 10 ^ 20 := by
  obtain ⟨hlow, hhigh⟩ := firstUnit_bounds hb hm
  unfold shortest
  dsimp only
  generalize floorLog10 b.ratio.1 b.ratio.2 = first at hlow hhigh ⊢
  -- the last grid tried has a point, so the search ends with one that reads back
  have hfound : b.gridPoint? (first - (16 : ℕ)) ≠ none :=
    gridPoint?_ne_none hm (seventeenth_fine hb hlow)
  obtain ⟨j, hj, hpoint, hunit⟩ := searchGrid_eq hfound
  obtain ⟨hback, hnear⟩ := gridPoint?_eq_some hpoint
  rw [readsBack_iff hm] at hback
  rw [hunit]
  refine ⟨hback, ?_⟩
  -- no grid that is tried is so fine that its point has many digits
  have hbelow : b.floorAt (first - j) < 10 ^ (j + 4) := by
    have hlt := (floorAt_bounds b (first - j)).1.trans_lt hhigh
    have hsplit : (10 : ℚ) ^ (first + 4) = (10 ^ (j + 4) : ℕ) * 10 ^ (first - j) := by
      rw [Nat.cast_pow, ← zpow_natCast, Nat.cast_ofNat, ← zpow_add₀ (by norm_num)]
      congr 1
      push_cast
      ring
    rw [hsplit] at hlt
    exact_mod_cast lt_of_mul_lt_mul_right hlt (ten_zpow_pos _).le
  have htop : 10 ^ (j + 4) ≤ 10 ^ 20 := Nat.pow_le_pow_right (by norm_num) (by omega)
  rcases hnear with h | h
  · rw [h]
    exact (hbelow.trans_le htop).le
  · rw [h]
    exact hbelow.trans_le htop

theorem Rounds.pos (hm : b.mantissa ≠ 0) {r : ℚ} (h : b.Rounds r) : 0 < r := by
  have hone : (1 : ℚ) ≤ b.mantissa := by exact_mod_cast Nat.one_le_iff_ne_zero.mpr hm
  have hreach := b.reach_le
  have hlow : 0 < (b.mantissa - b.reach) * 2 ^ b.exponent :=
    mul_pos (by linarith) (two_zpow_pos _)
  exact hlow.trans_le h.low

theorem shortest_ne_zero (hb : b.IsDouble) (hm : b.mantissa ≠ 0) : b.shortest.1 ≠ 0 := by
  intro hzero
  have hpos := (shortest_rounds hb hm).1.pos hm
  rw [hzero] at hpos
  simp at hpos

end Storybind.Binary

/-! ### Reading decimals -/

namespace Storybind

open Binary

variable {b : Binary} {r : ℚ}

theorem Binary.Rounds.bounds (hb : b.IsDouble) (hm : b.mantissa ≠ 0) (h : b.Rounds r) :
    (2 : ℚ) ^ (-1075 : Int) ≤ r ∧ r < 2 ^ (1024 : Int) := by
  constructor
  · have hone : (1 : ℚ) ≤ b.mantissa := by exact_mod_cast Nat.one_le_iff_ne_zero.mpr hm
    have hreach := b.reach_le
    calc (2 : ℚ) ^ (-1075 : Int) = 1 / 2 * 2 ^ (-1074 : Int) := by
          rw [show (-1075 : Int) = -1 + -1074 by norm_num, zpow_add₀ (by norm_num)]
          norm_num
      _ ≤ (b.mantissa - b.reach) * 2 ^ b.exponent :=
          mul_le_mul (by linarith) (two_zpow_le hb.least) (two_zpow_pos _).le (by linarith)
      _ ≤ r := h.low
  · have hgreatest := hb.greatest
    exact (h.lt_binade hb).trans_le (two_zpow_le (by omega))

theorem two_pow_1024_lt : (2 : ℚ) ^ (1024 : Int) < 10 ^ (309 : Int) := by
  have hnat : 2 ^ 1024 < 10 ^ 309 := by decide +kernel
  exact_mod_cast hnat

theorem ten_pow_neg_324_lt : (10 : ℚ) ^ (-324 : Int) < 2 ^ (-1075 : Int) := by
  have hnat : 2 ^ 1075 < 10 ^ 324 := by decide +kernel
  rw [zpow_neg, zpow_neg]
  exact inv_strictAnti₀ (two_zpow_pos _) (by exact_mod_cast hnat)

theorem toFloat_congr {b c : Binary} (h : b.bits = c.bits) (negative : Bool) :
    b.toFloat negative = c.toFloat negative := by
  rw [toFloat, toFloat, h]

/-- A decimal that is rounded to a double is read as it. -/
theorem floatOfDecimal_of_rounds (hb : b.IsDouble) (hm : b.mantissa ≠ 0) {digits : Nat}
    {exponent : Int} (hdigits : digits ≤ 10 ^ 20) (h : b.Rounds (digits * 10 ^ exponent))
    (negative : Bool) : floatOfDecimal negative digits exponent = b.toFloat negative := by
  have hpos := h.pos hm
  have hzero : digits ≠ 0 := by
    rintro rfl
    simp at hpos
  obtain ⟨hleast, hgreatest⟩ := h.bounds hb hm
  have hone : (1 : ℚ) ≤ digits := by exact_mod_cast Nat.one_le_iff_ne_zero.mpr hzero
  -- with few digits, the exponent is bounded as the number is
  have hupper : exponent < 309 := by
    have hlt : (10 : ℚ) ^ exponent < 10 ^ (309 : Int) :=
      calc (10 : ℚ) ^ exponent ≤ digits * 10 ^ exponent :=
            le_mul_of_one_le_left (ten_zpow_pos _).le hone
        _ < 2 ^ (1024 : Int) := hgreatest
        _ < 10 ^ (309 : Int) := two_pow_1024_lt
    exact (zpow_lt_zpow_iff_right₀ (by norm_num)).mp hlt
  have hlower : -324 < 20 + exponent := by
    have hcast : (digits : ℚ) ≤ 10 ^ (20 : Int) := by exact_mod_cast hdigits
    have hlt : (10 : ℚ) ^ (-324 : Int) < 10 ^ (20 + exponent) :=
      calc (10 : ℚ) ^ (-324 : Int) < 2 ^ (-1075 : Int) := ten_pow_neg_324_lt
        _ ≤ digits * 10 ^ exponent := hleast
        _ ≤ 10 ^ (20 : Int) * 10 ^ exponent :=
            mul_le_mul_of_nonneg_right hcast (ten_zpow_pos _).le
        _ = 10 ^ (20 + exponent) := (zpow_add₀ (by norm_num) _ _).symm
    exact (zpow_lt_zpow_iff_right₀ (by norm_num)).mp hlt
  have hlog : Nat.log2 digits < 67 := by
    rw [Nat.log2_lt hzero]
    exact hdigits.trans_lt (by norm_num)
  have hhuge : ¬(Nat.log2 digits : Int) * 3 / 10 + exponent > 400 := by omega
  have htiny : ¬(Nat.log2 digits : Int) * 3 / 10 + exponent < -800 := by omega
  -- both branches divide two numbers whose quotient is the decimal
  obtain ⟨num, den, hnum, hden, hratio, hread⟩ : ∃ num den : Nat, num ≠ 0 ∧ 0 < den ∧
      (num : ℚ) / den = digits * 10 ^ exponent ∧
      (if 0 ≤ exponent then ofRatio? (digits * Nat.pow 10 exponent.toNat) 1
        else ofRatio? digits (Nat.pow 10 (-exponent).toNat)) = ofRatio? num den := by
    split
    · next hexp =>
      refine ⟨digits * Nat.pow 10 exponent.toNat, 1,
        Nat.mul_ne_zero hzero (Nat.pow_pos (by decide)).ne', Nat.one_pos, ?_, rfl⟩
      rw [zpow_eq_toNat 10 hexp]
      simp
    · next hexp =>
      refine ⟨digits, Nat.pow 10 (-exponent).toNat, hzero, Nat.pow_pos (by decide), ?_, rfl⟩
      rw [zpow_eq_inv_toNat 10 (not_le.mp hexp), ← div_eq_mul_inv]
      simp
  rw [← hratio] at h
  obtain ⟨b', hb', hbits⟩ := ofRatio?_of_rounds hb hnum hden h
  unfold floatOfDecimal
  rw [if_neg hzero]
  dsimp only
  rw [if_neg hhuge, if_neg htiny, hread, hb']
  exact toFloat_congr hbits negative

end Storybind
