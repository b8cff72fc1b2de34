/-!
Binary floating-point numbers as exact values. A finite double is a mantissa below `2 ^ 53` times a
power of two; a quotient of natural numbers goes to the nearest of them, a tie to the even mantissa.
-/

namespace Storybind

/-- The number `mantissa * 2 ^ exponent`. -/
structure Binary where
  mantissa : Nat
  exponent : Int
deriving DecidableEq, Repr

namespace Binary

/-- The quotient rounded to the nearest integer, a tie to the even one. -/
def roundDiv (num den : Nat) : Nat :=
  let q := num / den
  let r := num % den
  if 2 * r < den then q else if den < 2 * r then q + 1 else q + q % 2

/-- Numerator and denominator of `n * 2 ^ e`. -/
def scale2 (n : Nat) (e : Int) : Nat × Nat :=
  if 0 ≤ e then (n * Nat.pow 2 e.toNat, 1) else (n, Nat.pow 2 (-e).toNat)

/-- The exponent of the power of two at or below a positive quotient. -/
def floorLog2 (num den : Nat) : Int :=
  let k : Int := (Nat.log2 num : Int) - Nat.log2 den
  let atLeast := if 0 ≤ k then den * Nat.pow 2 k.toNat ≤ num else den ≤ num * Nat.pow 2 (-k).toNat
  if atLeast then k else k - 1

/-- The double nearest to a quotient; `none` above the largest finite one. -/
def ofRatio? (num den : Nat) : Option Binary :=
  if num = 0 then some ⟨0, -1074⟩
  else
    let s := max (floorLog2 num den - 52) (-1074)
    let m := if 0 ≤ s then roundDiv num (den * Nat.pow 2 s.toNat)
      else roundDiv (num * Nat.pow 2 (-s).toNat) den
    if s + 1074 > 2045 || (s + 1074 = 2045 && m ≥ Nat.pow 2 53) then none else some ⟨m, s⟩

/-- Numerator and denominator of the exact value. -/
def ratio (b : Binary) : Nat × Nat := scale2 b.mantissa b.exponent

/-- The bit pattern of a non-negative double given as `ofRatio?` gives it. -/
def bits (b : Binary) : Nat := (b.exponent + 1074).toNat * Nat.pow 2 52 + b.mantissa

/-- The double with a sign. -/
def toFloat (negative : Bool) (b : Binary) : Float :=
  Float.ofBits (UInt64.ofNat (b.bits + if negative then Nat.pow 2 63 else 0))

end Binary

/-- A double taken apart. -/
inductive FloatView where
  | finite (negative : Bool) (value : Binary)
  | infinite (negative : Bool)
  | nan

/-- The exact value of a double. -/
def floatView (x : Float) : FloatView :=
  let n : Nat := x.toBits.toNat
  let negative := n / Nat.pow 2 63 = 1
  let biased : Nat := n / Nat.pow 2 52 % 2048
  let fraction : Nat := n % Nat.pow 2 52
  if biased = 2047 then
    if fraction = 0 then .infinite negative else .nan
  else if biased = 0 then .finite negative ⟨fraction, -1074⟩
  else .finite negative ⟨Nat.pow 2 52 + fraction, (biased : Int) - 1075⟩

/-- The infinities and the number that is none. -/
def floatInfinity : Float := Float.ofBits 0x7ff0000000000000

def floatNan : Float := Float.ofBits 0x7ff8000000000000

end Storybind
