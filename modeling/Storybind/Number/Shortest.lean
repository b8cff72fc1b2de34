import Storybind.Number.Binary

/-!
The shortest decimal text of a double: the fewest digits that read back, and of those the nearest to
the exact value. Numbers from 0.0001 up to below 10^16 are written positionally with at least one
decimal place, all others with an exponent of at least two digits.
-/

namespace Storybind.Binary

/-- Whether `num / den` is at least `10 ^ e`. -/
def atLeastPow10 (num den : Nat) (e : Int) : Bool :=
  if 0 ≤ e then den * Nat.pow 10 e.toNat ≤ num else den ≤ num * Nat.pow 10 (-e).toNat

/-- The exponent of the power of ten at or below a positive quotient. -/
def floorLog10 (num den : Nat) : Int :=
  let e := Int.fdiv (floorLog2 num den * 30103) 100000
  if atLeastPow10 num den (e + 1) then e + 1
  else if atLeastPow10 num den e then e
  else e - 1

/-- Numerator and denominator of `(n / 4) * 2 ^ exponent / 10 ^ unit`. -/
def inUnits (n : Nat) (exponent unit : Int) : Nat × Nat :=
  let p := scale2 n (exponent - 2)
  if 0 ≤ unit then (p.1, p.2 * Nat.pow 10 unit.toNat) else (p.1 * Nat.pow 10 (-unit).toNat, p.2)

/-- The lower end of what reads back, in quarters of the last place: half a place down, or a quarter
where the doubles below are twice as close. -/
def lowest (b : Binary) : Nat :=
  if b.mantissa = Nat.pow 2 52 && -1074 < b.exponent then 4 * b.mantissa - 1
  else 4 * b.mantissa - 2

/-- The upper end of what reads back, in quarters of the last place. -/
def highest (b : Binary) : Nat := 4 * b.mantissa + 2

/-- Whether `c * 10 ^ unit` reads back. The ends do for an even mantissa. -/
def readsBack (b : Binary) (unit : Int) (c : Nat) : Bool :=
  let low := inUnits b.lowest b.exponent unit
  let high := inUnits b.highest b.exponent unit
  if b.mantissa % 2 = 0 then low.1 ≤ c * low.2 && c * high.2 ≤ high.1
  else low.1 < c * low.2 && c * high.2 < high.1

/-- The multiple of `10 ^ unit` that reads back and is nearest, if one does. -/
def gridPoint? (b : Binary) (unit : Int) : Option Nat :=
  let mid := inUnits (4 * b.mantissa) b.exponent unit
  let below := mid.1 / mid.2
  let above := below + 1
  match b.readsBack unit below, b.readsBack unit above with
  | false, false => none
  | true, false => some below
  | false, true => some above
  | true, true =>
    let toBelow := mid.1 - below * mid.2
    let toAbove := above * mid.2 - mid.1
    if toBelow < toAbove then some below
    else if toAbove < toBelow then some above
    else some (if below % 2 = 0 then below else above)

/-- The first of `tries` grids, from the coarsest, that holds a point that reads back. -/
def searchGrid (b : Binary) : Nat → Int → Nat × Int
  | 0, unit => (((inUnits (4 * b.mantissa) b.exponent unit).1 /
      (inUnits (4 * b.mantissa) b.exponent unit).2), unit)
  | tries + 1, unit =>
    match gridPoint? b unit with
    | some c => (c, unit)
    | none => searchGrid b tries (unit - 1)

/-- The shortest decimal of a positive number, as digits and the power of ten of the last one. -/
def shortest (b : Binary) : Nat × Int :=
  let r := b.ratio
  searchGrid b 17 (floorLog10 r.1 r.2)

end Storybind.Binary

namespace Storybind

/-- A text of `n` zeros. -/
def zeros (n : Nat) : List Char := List.replicate n '0'

/-- A digit string without the zeros at its end. -/
def stripZeros (ds : List Char) : List Char := (ds.reverse.dropWhile (· = '0')).reverse

/-- The text of `digits * 10 ^ unit` for a positive digit count. -/
def decimalText (digits : Nat) (unit : Int) : List Char :=
  let all := (toString digits).toList
  let point : Int := all.length + unit
  let ds := stripZeros all
  let n : Int := ds.length
  if -4 < point && point ≤ 16 then
    if point ≤ 0 then '0' :: '.' :: zeros (-point).toNat ++ ds
    else if n ≤ point then ds ++ zeros (point - n).toNat ++ ['.', '0']
    else ds.take point.toNat ++ '.' :: ds.drop point.toNat
  else
    let e := point - 1
    let mantissa := match ds with
      | [] => ['0']
      | [d] => [d]
      | d :: rest => d :: '.' :: rest
    let expDigits := (toString e.natAbs).toList
    mantissa ++ 'e' :: (if e < 0 then '-' else '+') ::
      (if expDigits.length < 2 then '0' :: expDigits else expDigits)

/-- The shortest decimal text of a double. -/
def floatText (x : Float) : String :=
  match floatView x with
  | .nan => "nan"
  | .infinite false => "inf"
  | .infinite true => "-inf"
  | .finite negative b =>
    let body := if b.mantissa = 0 then "0.0".toList
      else decimalText b.shortest.1 b.shortest.2
    String.ofList (if negative then '-' :: body else body)

end Storybind
