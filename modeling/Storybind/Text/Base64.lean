import Storybind.Text.Utf8

/-!
Base 64. Encoding writes three bytes as four digits with `=` for missing bytes; decoding passes over
characters that are no digits.
-/

namespace Storybind.Text

/-- The digit of a number below sixty-four. -/
def base64Digit (n : Nat) : Char :=
  if n < 26 then Char.ofNat (65 + n)
  else if n < 52 then Char.ofNat (71 + n)
  else if n < 62 then Char.ofNat (n - 4)
  else if n = 62 then '+'
  else '/'

/-- The number that a digit stands for. -/
def base64Value? (c : Char) : Option Nat :=
  let n := c.toNat
  if 65 ≤ n && n ≤ 90 then some (n - 65)
  else if 97 ≤ n && n ≤ 122 then some (n - 71)
  else if 48 ≤ n && n ≤ 57 then some (n + 4)
  else if c = '+' then some 62
  else if c = '/' then some 63
  else none

/-- The four characters for up to three bytes. -/
def base64Group (a : Nat) (b c : Option Nat) : List Char :=
  let b' := b.getD 0
  let c' := c.getD 0
  [base64Digit (a / 4), base64Digit (a % 4 * 16 + b' / 16),
    if b.isSome then base64Digit (b' % 16 * 4 + c' / 64) else '=',
    if c.isSome then base64Digit (c' % 64) else '=']

/-- The base 64 characters of a byte string, last first, put before `done`. -/
def base64Onto (done : List Char) : Bytes → List Char
  | [] => done
  | [a] => (base64Group a.toNat none none).reverse ++ done
  | [a, b] => (base64Group a.toNat (some b.toNat) none).reverse ++ done
  | a :: b :: c :: rest =>
    base64Onto ((base64Group a.toNat (some b.toNat) (some c.toNat)).reverse ++ done) rest

/-- The base 64 text of a byte string. -/
def base64 (bytes : Bytes) : String := String.ofList (base64Onto [] bytes).reverse

/-- Why a base 64 text is refused. -/
inductive Base64Fault where
  | padding
  | lengthOne (digits : Nat)
deriving DecidableEq

def Base64Fault.message : Base64Fault → String
  | .padding => "Incorrect padding"
  | .lengthOne n =>
    "Invalid base64-encoded string: number of data characters (" ++ toString n ++
      ") cannot be 1 more than a multiple of 4"

/-- Decoding with the position in the group of four, the bits left over, the digits seen and the run
of padding before this character. -/
def unbase64From (quad left digits pads : Nat) : List Char → Except Base64Fault Bytes
  | [] =>
    if quad = 0 then .ok []
    else if quad = 1 then .error (.lengthOne digits)
    else .error .padding
  | c :: cs =>
    if c = '=' then
      if quad ≥ 2 && quad + (pads + 1) ≥ 4 then .ok []
      else unbase64From quad left digits (pads + 1) cs
    else
      match base64Value? c with
      | none => unbase64From quad left digits pads cs
      | some v =>
        if quad = 0 then unbase64From 1 v (digits + 1) 0 cs
        else if quad = 1 then
          (unbase64From 2 (v % 16) (digits + 1) 0 cs).map ((left * 4 + v / 16).toUInt8 :: ·)
        else if quad = 2 then
          (unbase64From 3 (v % 4) (digits + 1) 0 cs).map ((left * 16 + v / 4).toUInt8 :: ·)
        else
          (unbase64From 0 0 (digits + 1) 0 cs).map ((left * 64 + v).toUInt8 :: ·)

/-- The bytes that a base 64 text stands for. -/
def unbase64 (s : String) : Except Base64Fault Bytes := unbase64From 0 0 0 0 s.toList

end Storybind.Text
