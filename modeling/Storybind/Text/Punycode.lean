import Storybind.Text.Chars

/-!
Text outside ASCII as letters, digits and hyphens. The ASCII characters come first, in order; after
a hyphen the others follow as numbers, each the distance to go from the place of the last one, in
digits of base thirty-six whose thresholds adapt to the distances seen so far.
-/

namespace Storybind.Text.Punycode

/-- The character of a digit below thirty-six: letters first. -/
def digitChar (d : Nat) : Char := if d < 26 then Char.ofNat (97 + d) else Char.ofNat (22 + d)

/-- The value of a digit, in either letter case. -/
def digitValue? (c : Char) : Option Nat :=
  let n := c.toNat
  if isAsciiDigit c then some (n - 22)
  else if isAsciiLetter c then some (if n < 97 then n - 65 else n - 97)
  else none

/-- The threshold of the digit at a place: the places are 36, 72, and so on. -/
def threshold (place bias : Nat) : Nat := max 1 (min 26 (place - bias))

/-- Divides a distance until it is small, counting 36 for every division. -/
def scaleDown : Nat → Nat → Nat → Nat × Nat
  | 0, delta, k => (delta, k)
  | fuel + 1, delta, k => if 455 < delta then scaleDown fuel (delta / 35) (k + 36) else (delta, k)

/-- The bias after a distance, with `count` characters placed. -/
def adapt (delta count : Nat) (first : Bool) : Nat :=
  let d := if first then delta / 700 else delta / 2
  let (rest, k) := scaleDown delta (d + d / count) 0
  k + 36 * rest / (rest + 38)

/-- The digits of a distance from a place on; `fuel` bounds their number. -/
def digits (bias : Nat) : Nat → Nat → Nat → List Char
  | 0, _, _ => []
  | fuel + 1, place, q =>
    let t := threshold place bias
    if q < t then [digitChar q]
    else
      digitChar (t + (q - t) % (36 - t)) :: digits bias fuel (place + 36) ((q - t) / (36 - t))

/-- How far the writing is: the digits, the distance so far, the bias, and the number of characters
placed. -/
structure Writing where
  written : List Char
  delta : Nat
  bias : Nat
  placed : Nat

/-- Passes one character while the code point `n` is placed. -/
def pass (ascii n : Nat) (w : Writing) (c : Char) : Writing :=
  if c.toNat < n then { w with delta := w.delta + 1 }
  else if c.toNat = n then
    ⟨w.written ++ digits w.bias (w.delta + 1) 36 w.delta, 0,
      adapt w.delta (w.placed + 1) (w.placed = ascii), w.placed + 1⟩
  else w

/-- Places code points in ascending order, of which the first is at least `n`. -/
def place (s : List Char) (ascii : Nat) : List Nat → Nat → Writing → Writing
  | [], _, w => w
  | m :: rest, n, w =>
    let w := s.foldl (pass ascii m) { w with delta := w.delta + (m - n) * (w.placed + 1) }
    place s ascii rest (m + 1) { w with delta := w.delta + 1 }

/-- The written form of a text. -/
def encode (s : List Char) : List Char :=
  let ascii := s.filter fun c => c.toNat < 128
  let others := ((s.filter fun c => 128 ≤ c.toNat).map Char.toNat).mergeSort.eraseDups
  let w := place s ascii.length others 128 ⟨[], 0, 72, ascii.length⟩
  (if ascii.isEmpty then [] else ascii ++ ['-']) ++ w.written

/-- The distance at the start of a text, and the rest. -/
def distance? (bias : Nat) : Nat → Nat → Nat → List Char → Option (Nat × List Char)
  | _, _, _, [] => none
  | place, weight, sum, c :: rest => do
    let d ← digitValue? c
    let t := threshold place bias
    let sum := sum + d * weight
    if d < t then some (sum, rest) else distance? bias (place + 36) (weight * (36 - t)) sum rest

/-- A character by its code point, if there is one. -/
def charAt? (n : Nat) : Option Char := if h : n.isValidChar then some (Char.ofNatAux n h) else none

/-- Puts the characters into a text that distances tell: the code point and the place of the last one,
no place before the first. `fuel` bounds their number. -/
def insertAll : Nat → List Char → Nat → Option Nat → Nat → List Char → Option (List Char)
  | _, s, _, _, _, [] => some s
  | 0, _, _, _, _, _ => none
  | fuel + 1, s, n, last, bias, c :: cs => do
    let (delta, rest) ← distance? bias 36 1 0 (c :: cs)
    let count := s.length + 1
    let bias := adapt delta count last.isNone
    let place := (match last with | some i => i + 1 | none => 0) + delta
    let n := n + place / count
    let x ← charAt? n
    let i := place % count
    insertAll fuel (s.take i ++ x :: s.drop i) n (some i) bias rest

/-- The text that a written form stands for, if it is one. -/
def decode? (s : List Char) : Option (List Char) :=
  let tail := (s.reverse.takeWhile (· ≠ '-')).reverse
  let head := (s.take (s.length - tail.length)).dropLast
  insertAll tail.length head 128 none 72 tail

end Storybind.Text.Punycode
