import Storybind.Number.Reading
import Storybind.Text.Base64
import Storybind.Text.Case
import Storybind.Yaml.Refusal
import Storybind.Yaml.Tag

/-!
Scalars from their written form: what the text of a node denotes under its tag, or why it denotes
nothing.
-/

namespace Storybind.Yaml

/-- A text without underscores. -/
def dropUnderscores (cs : List Char) : List Char := cs.filter (· ≠ '_')

/-- Reads a part of a whole number in a base. -/
def intPart (base : Nat) (cs : List Char) : Except ScalarError Int :=
  match if base = 10 then readInt cs else readIntBase base cs with
  | .ok n => .ok n
  | .error .malformed => .error (.badInt base (String.ofList cs))
  | .error (.tooManyDigits n) => .error (.tooManyDigits n)

/-- Reads a whole number: decimal, binary, octal, hexadecimal, or in groups of sixtieths. -/
def intOf (s : String) : Except ScalarError Int :=
  let cs := dropUnderscores s.toList
  if cs.isEmpty then .error .emptyNumber
  else
    let sign : Int := if cs.head? = some '-' then -1 else 1
    let body := dropSign cs
    match body with
    | [] => .error .emptyNumber
    | ['0'] => .ok 0
    | '0' :: 'b' :: ds => (intPart 2 ds).map (sign * ·)
    | '0' :: 'x' :: ds => (intPart 16 ds).map (sign * ·)
    | '0' :: _ => (intPart 8 body).map (sign * ·)
    | _ =>
      if body.contains ':' then do
        let parts ← (Text.splitChars ':' body).mapM (intPart 10)
        pure (sign * parts.foldl (fun n p => n * 60 + p) 0)
      else (intPart 10 body).map (sign * ·)

/-- Reads a part of a floating-point number. -/
def floatPart (cs : List Char) : Except ScalarError Float :=
  match readFloat? cs with
  | some x => .ok x
  | none => .error (.badFloat (String.ofList cs))

/-- The sum of groups of sixtieths, the last group first. -/
def sixtieths (base sum : Float) : List Float → Float
  | [] => sum
  | x :: rest => sixtieths (base * 60) (sum + x * base) rest

/-- Reads a floating-point number: decimal, in groups of sixtieths, infinite, or none. -/
def floatOf (s : String) : Except ScalarError Float :=
  let cs := Text.lowerFrom [] (dropUnderscores s.toList)
  if cs.isEmpty then .error .emptyNumber
  else
    let negate (x : Float) : Float := if cs.head? = some '-' then -x else x
    let body := dropSign cs
    if body = ".inf".toList then .ok (negate floatInfinity)
    else if body = ".nan".toList then .ok floatNan
    else if body.contains ':' then do
      let parts ← (Text.splitChars ':' body).mapM floatPart
      pure (negate (sixtieths 1 0 parts.reverse))
    else (floatPart body).map negate

/-- Reads a truth value. -/
def truthOf (s : String) : Except ScalarError Bool :=
  let word := Text.lower s
  if word = "yes" || word = "true" || word = "on" then .ok true
  else if word = "no" || word = "false" || word = "off" then .ok false
  else .error (.unknownTruth word)

/-- The number of days of a month. -/
def monthLength (year month : Nat) : Nat :=
  if month = 2 then
    if year % 4 = 0 && (year % 100 != 0 || year % 400 = 0) then 29 else 28
  else if month = 4 || month = 6 || month = 9 || month = 11 then 30
  else 31

/-- A day of the calendar. -/
def dayOf (year month day : Nat) : Except ScalarError Day :=
  if year = 0 then .error (.yearRange year)
  else if month = 0 || 12 < month then .error .monthRange
  else if day = 0 || monthLength year month < day then .error .dayRange
  else .ok ⟨year, month, day⟩

/-- The microseconds that the digits of a fraction denote. -/
def microseconds (fraction : List Char) : Nat :=
  let six := (fraction ++ List.replicate 6 '0').take 6
  six.foldl (fun n d => n * 10 + (d.toNat - 48)) 0

/-- Reads a day or a moment; `label` names the node it stands in. -/
def timestampOf (label : Nat) (s : String) : Except ScalarError Scalar :=
  match moment? false (dropFinalBreak s.toList) with
  | none => .error .noTimestamp
  | some p =>
    match p.time with
    | none => (dayOf p.year p.month p.day).map (.day label)
    | some (h, m, s) => do
      match p.offset with
      | some o => if 1440 ≤ o.natAbs then .error (.offsetRange o) else pure ()
      | none => pure ()
      let d ← dayOf p.year p.month p.day
      if 23 < h then .error .hourRange
      else if 59 < m then .error .minuteRange
      else if 59 < s then .error .secondRange
      else pure (.moment label ⟨d, h, m, s, microseconds p.fraction, p.offset⟩)

/-- Why the bytes of a binary scalar cannot be read. -/
def binaryOf (s : String) : Except String Bytes :=
  match Text.asciiComplaint? s.toList with
  | some complaint => .error ("failed to convert base64 data into ascii: " ++ complaint)
  | none =>
    match Text.unbase64 s with
    | .ok b => .ok b
    | .error e => .error ("failed to decode base64 data: " ++ e.message)

end Storybind.Yaml
