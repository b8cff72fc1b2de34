import Storybind.Number.Binary
import Storybind.Text.Pieces

/-!
Reading numbers from text. Digits of any writing system count, single underscores may stand between
digits, blanks around the number do not matter. Whole numbers of more than 4300 digits are refused.
-/

namespace Storybind

/-- The most digits of a whole number that is read. -/
def maxDigits : Nat := 4300

/-- The least number with more digits than are read or written. -/
def digitBound : Nat := Nat.pow 10 maxDigits

/-- Whether a number has more digits than are written. -/
def isOverlong (n : Int) : Bool := digitBound ≤ n.natAbs

/-- The digits of a run with single underscores between digits; `none` if the run is anything
else. -/
def digitRun? (value? : Char → Option Nat) : List Char → Option (List Nat)
  | [] => none
  | [c] => (value? c).map ([·])
  | c :: '_' :: rest => do
    let v ← value? c
    let vs ← digitRun? value? rest
    pure (v :: vs)
  | c :: rest => do
    let v ← value? c
    let vs ← digitRun? value? rest
    pure (v :: vs)

/-- The number that digits denote in a base. -/
def digitsValue (base : Nat) (ds : List Nat) : Nat := ds.foldl (fun n d => n * base + d) 0

/-- Splits a sign off. -/
def signOf : List Char → Bool × List Char
  | '-' :: cs => (true, cs)
  | '+' :: cs => (false, cs)
  | cs => (false, cs)

/-- Why a text is no whole number. -/
inductive IntFault where
  | malformed
  | tooManyDigits (count : Nat)
deriving DecidableEq

/-- A whole number with more digits than are read. -/
structure DigitLimit where
  count : Nat
deriving DecidableEq, Repr

def DigitLimit.message (e : DigitLimit) : String :=
  "Exceeds the limit (4300 digits) for integer string conversion: value has " ++ toString e.count ++
    " digits; use sys.set_int_max_str_digits() to increase the limit"

/-- The complaint about a number with more digits than are written. -/
def overlongMessage : String :=
  "Exceeds the limit (4300 digits) for integer string conversion; " ++
    "use sys.set_int_max_str_digits() to increase the limit"

def withSign (negative : Bool) (n : Nat) : Int := if negative then -(n : Int) else n

/-- Reads a whole number in base ten. -/
def readInt (s : List Char) : Except IntFault Int :=
  let (negative, body) := signOf (Text.trimChars s)
  match digitRun? Text.digitValue? body with
  | none => .error .malformed
  | some ds =>
    if maxDigits < ds.length then .error (.tooManyDigits ds.length)
    else .ok (withSign negative (digitsValue 10 ds))

/-- The value of a digit in a base up to sixteen. -/
def baseDigit? (base : Nat) (c : Char) : Option Nat :=
  match Text.digitValue? c with
  | some d => if d < base then some d else none
  | none => (Text.hexValue? c).bind fun d => if d < base then some d else none

/-- The two-character mark that may stand before the digits of a base. -/
def dropBaseMark (base : Nat) : List Char → List Char
  | '0' :: c :: rest =>
    let marked := (base = 16 && (c = 'x' || c = 'X')) || (base = 8 && (c = 'o' || c = 'O')) ||
      (base = 2 && (c = 'b' || c = 'B'))
    if marked then (match rest with | '_' :: r => r | r => r) else '0' :: c :: rest
  | cs => cs

/-- Reads a whole number in base two, eight or sixteen. -/
def readIntBase (base : Nat) (s : List Char) : Except IntFault Int :=
  let (negative, body) := signOf (Text.trimChars s)
  match digitRun? (baseDigit? base) (dropBaseMark base body) with
  | none => .error .malformed
  | some ds => .ok (withSign negative (digitsValue base ds))

/-- The double nearest to `digits * 10 ^ exponent`; infinity beyond the largest. -/
def floatOfDecimal (negative : Bool) (digits : Nat) (exponent : Int) : Float :=
  if digits = 0 then Binary.toFloat negative ⟨0, -1074⟩
  else
    let size : Int := (Nat.log2 digits : Int) * 3 / 10 + exponent
    if size > 400 then if negative then -floatInfinity else floatInfinity
    else if size < -800 then Binary.toFloat negative ⟨0, -1074⟩
    else
      let r := if 0 ≤ exponent then Binary.ofRatio? (digits * Nat.pow 10 exponent.toNat) 1
        else Binary.ofRatio? digits (Nat.pow 10 (-exponent).toNat)
      match r with
      | some b => b.toFloat negative
      | none => if negative then -floatInfinity else floatInfinity

/-- A digit run that may be empty. -/
def digitRunOrEmpty? (s : List Char) : Option (List Nat) :=
  if s.isEmpty then some [] else digitRun? Text.digitValue? s

/-- Reads the exponent that may follow the digits. -/
def readExponent? : List Char → Option Int
  | [] => some 0
  | e :: rest =>
    if e = 'e' || e = 'E' then
      let (negative, body) := signOf rest
      (digitRun? Text.digitValue? body).map fun ds => withSign negative (digitsValue 10 ds)
    else none

/-- Reads a decimal number, `inf`, `infinity` or `nan`, in any letter case. -/
def readFloat? (s : List Char) : Option Float :=
  let (negative, body) := signOf (Text.trimChars s)
  let word := body.map Char.toLower
  if word = "inf".toList || word = "infinity".toList then
    some (if negative then -floatInfinity else floatInfinity)
  else if word = "nan".toList then some floatNan
  else do
    let isPart (c : Char) : Bool := Text.isDigit c || c = '_'
    let whole := body.takeWhile isPart
    let rest := body.dropWhile isPart
    let (part, rest) := match rest with
      | '.' :: r => (r.takeWhile isPart, r.dropWhile isPart)
      | r => ([], r)
    let w ← digitRunOrEmpty? whole
    let p ← digitRunOrEmpty? part
    if w.isEmpty && p.isEmpty then none
    else do
      let e ← readExponent? rest
      pure (floatOfDecimal negative (digitsValue 10 (w ++ p)) (e - p.length))

end Storybind
