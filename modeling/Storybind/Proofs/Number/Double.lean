import Mathlib
import Storybind.Proofs.Number.Binary

/-!
Doubles taken apart. A finite double is the one with the sign, mantissa and exponent that it is seen to
have.
-/

namespace Storybind.Double

variable {x : Float} {negative : Bool} {b : Binary}

theorem isDouble_of_view (h : floatView x = .finite negative b) : b.IsDouble := by
  have hpow : Nat.pow 2 52 = 4503599627370496 := rfl
  unfold floatView at h
  dsimp only at h
  rw [hpow] at h
  split at h
  · split at h <;> cases h
  · split at h
    · obtain ⟨-, rfl⟩ := FloatView.finite.inj h
      constructor <;> dsimp only <;> omega
    · obtain ⟨-, rfl⟩ := FloatView.finite.inj h
      constructor <;> dsimp only <;> omega

theorem bits_of_view (h : floatView x = .finite negative b) :
    b.bits + (if negative then Nat.pow 2 63 else 0) = x.toBits.toNat := by
  have hlt : x.toBits.toNat < 18446744073709551616 := x.toBits.toNat_lt
  have hpow : Nat.pow 2 52 = 4503599627370496 := rfl
  have htop : Nat.pow 2 63 = 9223372036854775808 := rfl
  unfold floatView at h
  dsimp only at h
  rw [hpow, htop] at h
  rw [Binary.bits, hpow, htop]
  generalize x.toBits.toNat = n at h hlt ⊢
  -- the sign is the highest bit, so its weight is there once or not at all
  have hsign : (if decide (n / 9223372036854775808 = 1) then 9223372036854775808 else 0) =
      n / 9223372036854775808 * 9223372036854775808 := by
    by_cases hn : n / 9223372036854775808 = 1
    · simp [hn]
    · have hzero : n / 9223372036854775808 = 0 := by omega
      simp [hzero]
  split at h
  · split at h <;> cases h
  · split at h
    · obtain ⟨rfl, rfl⟩ := FloatView.finite.inj h
      rw [hsign]
      dsimp only
      omega
    · obtain ⟨rfl, rfl⟩ := FloatView.finite.inj h
      rw [hsign]
      dsimp only
      omega

/-- A finite double is the one with its sign and value. -/
theorem toFloat_of_view (h : floatView x = .finite negative b) : b.toFloat negative = x := by
  have hbits : UInt64.ofNat (b.bits + if negative then Nat.pow 2 63 else 0) = x.toBits := by
    rw [bits_of_view h, UInt64.ofNat_toNat]
  rw [Binary.toFloat, hbits, Float.ofBits_toBits]

end Storybind.Double
