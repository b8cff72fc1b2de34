import Storybind.Text.Case
import Storybind.Text.Utf8
import Storybind.Web.HostLabel

/-!
Hosts of addresses: four numbers, eight groups of hexadecimal digits in brackets, or a name. A name
is written in small letters, with escapes for characters that a host cannot hold, or in the ASCII form
of its labels.
-/

namespace Storybind.Web

/-- A text with every character escaped that is not safe, byte by byte. -/
def escape (safe : Char → Bool) (s : List Char) : List Char :=
  s.flatMap fun c =>
    if safe c then [c]
    else (Text.encodeChar c).flatMap fun b => '%' :: (Text.hexPad 2 b.toNat).map Char.toUpper

namespace Host

/-- Why a text is no host. -/
inductive HostError where
  | numbers
  | groups
  | name
deriving DecidableEq, Repr

/-! ### Numbers -/

/-- The states after a character, of a reader of digits with single characters between them. A state
is the number of separators to come, and whether a digit has been read since the last. -/
def afterDigit (c : Char) (states : List (Nat × Bool)) : List (Nat × Bool) :=
  (states.flatMap fun (left, started) =>
    (if Text.isAsciiDigit c then [(left, true)] else []) ++
      (if started && 0 < left then [(left - 1, false)] else [])).eraseDups

/-- Whether a host looks like four numbers, whatever stands between them. -/
def looksNumeric (host : List Char) : Bool :=
  (host.foldl (fun states c => afterDigit c states) [(3, false)]).contains (0, true)

/-- A number below 256 without needless zeros. -/
def isOctet (s : List Char) : Bool :=
  !s.isEmpty && s.length ≤ 3 && s.all Text.isAsciiDigit && (s = ['0'] || s.head? ≠ some '0') &&
    s.foldl (fun n c => n * 10 + (c.toNat - 48)) 0 < 256

/-- Four numbers with points between them. -/
def isNumeric (host : List Char) : Bool :=
  let parts := Text.splitChars '.' host
  parts.length = 4 && parts.all isOctet

/-! ### Groups -/

/-- One to four hexadecimal digits. -/
def isGroup (s : List Char) : Bool :=
  !s.isEmpty && s.length ≤ 4 && s.all fun c => (Text.hexValue? c).isSome

/-- The groups with the last one, if it is four numbers, written as two. -/
def splitGroups? (s : List Char) : Option (List (List Char)) :=
  let parts := Text.splitChars ':' s
  let last := parts.getLast?.getD []
  if parts.length < 3 then none
  else if last.contains '.' then
    if isNumeric last then some (parts.dropLast ++ [['0'], ['0']]) else none
  else some parts

/-- Eight groups, or fewer with one gap of two colons between them. -/
def areGroups (parts : List (List Char)) : Bool :=
  let gaps := ((parts.drop 1).dropLast.filter List.isEmpty).length
  if gaps = 0 then parts.length = 8 && parts.all isGroup
  else
    let before := (parts.drop 1).takeWhile (!·.isEmpty)
    let high := (parts.take 1) ++ before
    let low := parts.drop (high.length + 1)
    let high := if high = [[]] then [] else high
    let low := if low = [[]] then [] else low
    gaps = 1 && high.length + low.length < 8 && high.all isGroup && low.all isGroup

/-- A host of groups, which may name its zone after a percent sign. -/
def isGrouped (s : List Char) : Bool :=
  let address := s.takeWhile (· ≠ '%')
  let zoned : Bool := match s.drop address.length with
    | [] => true
    | _ :: zone => !zone.isEmpty && !zone.contains '%'
  zoned && (splitGroups? address).any areGroups

/-! ### Names -/

/-- A character that a name may hold unescaped. -/
def isSafe (c : Char) : Bool :=
  Text.isAsciiAlnum c || "-._~!$&\x27()*+,;=\x22\x60\x7b\x7d%|\\".toList.contains c

/-- The normal form of a host. -/
def normal (host : List Char) : Except HostError (List Char) :=
  if host.isEmpty then .ok []
  else if looksNumeric host then if isNumeric host then .ok host else .error .numbers
  else if host.head? = some '[' && host.getLast? = some ']' then
    let inner := (host.drop 1).dropLast
    if isGrouped inner then .ok inner else .error .groups
  else
    let small := Text.lowerFrom [] host
    if host.all fun c => c.toNat < 128 then .ok (escape isSafe small)
    else
      match HostLabel.hostToAscii? small with
      | some form => .ok form
      | none => .error .name

end Host
end Storybind.Web
