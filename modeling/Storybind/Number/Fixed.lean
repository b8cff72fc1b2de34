import Storybind.Number.Binary

/-!
Amounts for people: byte counts in units of 1024 with one decimal place, durations in seconds with
two. The amount is first rounded to a double, as every measured quantity is, and its exact value is
then rounded to the places, a tie to the even digit.
-/

namespace Storybind

/-- A quotient with a fixed number of decimal places. -/
def fixedText (places : Nat) (num den : Nat) : String :=
  let n := Binary.roundDiv (num * Nat.pow 10 places) den
  let whole := toString (n / Nat.pow 10 places)
  let part := (toString (n % Nat.pow 10 places)).toList
  whole ++ "." ++ String.ofList (List.replicate (places - part.length) '0' ++ part)

/-- The quotient divided by `1024`, as often as it takes to get below it; at most `steps` times. -/
def sizeUnit (num : Nat) : Nat → Nat → Nat × Nat
  | 0, den => (0, den)
  | steps + 1, den =>
    let den := den * 1024
    if steps = 0 || num < 1024 * den then (steps, den) else sizeUnit num steps den

/-- An amount that no double reaches. -/
inductive AmountError where
  | tooLarge
  | quotientTooLarge
deriving DecidableEq

def AmountError.message : AmountError → String
  | .tooLarge => "int too large to convert to float"
  | .quotientTooLarge => "integer division result too large for a float"

/-- A byte count for people. -/
def sizeText? (bytes : Int) : Except AmountError String :=
  if bytes < 1024 then .ok (toString bytes ++ " B")
  else
    match Binary.ofRatio? bytes.toNat 1 with
    | none => .error .tooLarge
    | some b =>
      let r := b.ratio
      let u := sizeUnit r.1 3 r.2
      let unit := if u.1 = 2 then "KB" else if u.1 = 1 then "MB" else "GB"
      .ok (fixedText 1 r.1 u.2 ++ " " ++ unit)

/-- A byte count for people. Counts that no double reaches do not arise from texts. -/
def sizeText (bytes : Nat) : String :=
  match sizeText? bytes with
  | .ok s => s
  | .error e => e.message

/-- A duration for people. -/
def durationText? (milliseconds : Int) : Except AmountError String :=
  if milliseconds < 1000 then .ok (toString milliseconds ++ "ms")
  else
    match Binary.ofRatio? milliseconds.toNat 1000 with
    | none => .error .quotientTooLarge
    | some b => .ok (fixedText 2 b.ratio.1 b.ratio.2 ++ "s")

/-- A duration for people. Durations that no double reaches do not arise from clocks. -/
def durationText (milliseconds : Nat) : String :=
  match durationText? milliseconds with
  | .ok s => s
  | .error e => e.message

end Storybind
