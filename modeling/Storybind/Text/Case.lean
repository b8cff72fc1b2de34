import Storybind.Text.Chars
import Storybind.Text.CaseTable

/-!
Lower case and capitals of text of any writing system. In lower case a capital sigma at the end of a
word becomes a final sigma, and the dotted capital I becomes an `i` with a combining dot; every
other letter maps to one letter. The capital of a letter may be several characters.
-/

namespace Storybind.Text

/-- The letter of the other case, of a code point in one of some runs. -/
def shifted? (runs : Array CaseRun) (n : Nat) : Option Char :=
  (runs.find? fun r => r.first ≤ n && n ≤ r.last && (n - r.first) % r.step == 0).map fun r =>
    Char.ofNat (Int.toNat (n + r.shift))

/-- The lower-case letter of one character, looked at alone. -/
def lowerChar (c : Char) : Char :=
  let n := c.toNat
  if n < 128 then
    if 65 ≤ n && n ≤ 90 then Char.ofNat (n + 32) else c
  else
    (shifted? lowerRuns n).getD c

/-- Whether the nearest character that is not passed over has case. -/
def nextIsCased (cs : List Char) : Bool :=
  match cs.dropWhile fun c => inRanges caseIgnorableRanges c.toNat with
  | [] => false
  | c :: _ => inRanges casedRanges c.toNat

/-- Lower case of the rest of a text, the characters before it given nearest first. -/
def lowerFrom (before : List Char) : List Char → List Char
  | [] => []
  | c :: rest =>
    let low :=
      if c.toNat = 0x3a3 then
        if nextIsCased before && !nextIsCased rest then [Char.ofNat 0x3c2] else [Char.ofNat 0x3c3]
      else if c.toNat = 0x130 then ['i', Char.ofNat 0x307]
      else [lowerChar c]
    low ++ lowerFrom (c :: before) rest

/-- Lower case of a text. -/
def lower (s : String) : String := String.ofList (lowerFrom [] s.toList)

/-- The capital of one character. -/
def upperChar (c : Char) : List Char :=
  let n := c.toNat
  if n < 128 then [c.toUpper]
  else
    match upperExpansions.find? fun e => e.1 = n with
    | some (_, capital) => capital.map Char.ofNat
    | none => [(shifted? upperRuns n).getD c]

/-- Capitals of a text. -/
def upper (s : String) : String := String.ofList (s.toList.flatMap upperChar)

end Storybind.Text
