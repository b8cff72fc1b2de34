import Storybind.Text.Letters

/-!
Character classes of script text: blanks, decimal digits, word characters and printable characters.
ASCII is decided here; everything above is looked up in the tables of `Letters`.
-/

namespace Storybind.Text

/-- Membership in a table of inclusive ranges. -/
def inRanges (table : Array (Nat × Nat)) (n : Nat) : Bool :=
  table.any fun r => r.1 ≤ n && n ≤ r.2

/-- A blank: the ASCII spaces and separators, and the Unicode spaces. -/
def isBlank (c : Char) : Bool :=
  let n := c.toNat
  (9 ≤ n && n ≤ 13) || (28 ≤ n && n ≤ 32) || n == 0x85 || n == 0xa0 || n == 0x1680 ||
    (0x2000 ≤ n && n ≤ 0x200a) || n == 0x2028 || n == 0x2029 || n == 0x202f || n == 0x205f ||
    n == 0x3000

/-- The value of a decimal digit of any writing system. -/
def digitValue? (c : Char) : Option Nat :=
  let n := c.toNat
  if n < 128 then
    if 48 ≤ n && n ≤ 57 then some (n - 48) else none
  else
    (digitZeros.find? fun z => z ≤ n && n ≤ z + 9).map (n - ·)

/-- A decimal digit of any writing system. -/
def isDigit (c : Char) : Bool := (digitValue? c).isSome

/-- An ASCII digit. -/
def isAsciiDigit (c : Char) : Bool := 48 ≤ c.toNat && c.toNat ≤ 57

/-- An ASCII letter. -/
def isAsciiLetter (c : Char) : Bool :=
  (65 ≤ c.toNat && c.toNat ≤ 90) || (97 ≤ c.toNat && c.toNat ≤ 122)

/-- An ASCII letter or digit. -/
def isAsciiAlnum (c : Char) : Bool := isAsciiLetter c || isAsciiDigit c

/-- A word character: a letter, digit or other number of any writing system, or the underscore. -/
def isWord (c : Char) : Bool :=
  if c.toNat < 128 then isAsciiAlnum c || c == '_' else inRanges letterRanges c.toNat

/-- A character that quoted text shows as itself. -/
def isPrintable (c : Char) : Bool :=
  let n := c.toNat
  if n < 128 then 32 ≤ n && n ≤ 126 else !inRanges unprintableRanges n

/-- The value of a hexadecimal digit. -/
def hexValue? (c : Char) : Option Nat :=
  let n := c.toNat
  if 48 ≤ n && n ≤ 57 then some (n - 48)
  else if 97 ≤ n && n ≤ 102 then some (n - 87)
  else if 65 ≤ n && n ≤ 70 then some (n - 55)
  else none

/-- The lower-case hexadecimal digit of a number below sixteen. -/
def hexDigit (n : Nat) : Char :=
  if n < 10 then Char.ofNat (48 + n) else Char.ofNat (87 + n)

/-- Exactly `width` hexadecimal digits, the least significant last. -/
def hexPad : Nat → Nat → List Char
  | 0, _ => []
  | width + 1, n => hexPad width (n / 16) ++ [hexDigit (n % 16)]

/-- The hexadecimal digits of the number of a character, without leading zeros. -/
def hexCode (c : Char) : List Char :=
  match (hexPad 6 c.toNat).dropWhile (· = '0') with
  | [] => ['0']
  | ds => ds

end Storybind.Text
