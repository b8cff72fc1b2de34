import Storybind.Text.Base64
import Storybind.Value.Display
import Storybind.Yaml.Lexeme
import Storybind.Yaml.Tag

/-!
The written form of a scalar: its tag, its text, and the styles in which the text can be written
without being read back as something else.
-/

namespace Storybind.Yaml

/-- What a text contains that bears on how it can be written. -/
structure TextTraits where
  empty : Bool
  multiline : Bool
  plainAllowed : Bool
  singleAllowed : Bool
  literalAllowed : Bool
deriving DecidableEq, Repr

/-- A character that ends a line in a written scalar. -/
def isWrittenBreak (c : Char) : Bool :=
  c = '\n' || c.toNat = 0x85 || c.toNat = 0x2028 || c.toNat = 0x2029

/-- A character that can stand in a written scalar without an escape. -/
def isWritable (c : Char) : Bool :=
  let n := c.toNat
  c = '\n' || (0x20 ≤ n && n ≤ 0x7e) ||
    ((n = 0x85 || (0xa0 ≤ n && n ≤ 0xd7ff) || (0xe000 ≤ n && n ≤ 0xfffd) ||
      (0x10000 ≤ n && n < 0x10ffff)) && n ≠ 0xfeff)

/-- Whether a character is an indicator where it stands: at the start of the text or inside it, with
what comes before and after. -/
def isIndicator (first afterWhite : Bool) (c after : Char) : Bool :=
  let alone := isWhiteOrEnd after
  if first then
    "#,[]\x7b\x7d&*!|>'\"%@`".toList.contains c || ((c = '?' || c = ':' || c = '-') && alone)
  else (c = ':' && alone) || (c = '#' && afterWhite)

/-- Whether an indicator occurs in a text outside of flow collections. -/
def hasIndicator (first afterWhite : Bool) : List Char → Bool
  | [] => false
  | c :: rest =>
    isIndicator first afterWhite c (rest.headD nul) || hasIndicator false (isWhiteOrEnd c) rest

/-- Whether some character of one class is followed by one of another. -/
def hasAdjacent (p q : Char → Bool) : List Char → Bool
  | a :: b :: rest => (p a && q b) || hasAdjacent p q (b :: rest)
  | _ => false

/-- The traits of a text. -/
def textTraits (cs : List Char) : TextTraits :=
  if cs.isEmpty then ⟨true, false, true, true, false⟩
  else
    let isSpace (c : Char) : Bool := c = ' '
    let edge (c : Char) : Bool := c = ' ' || isWrittenBreak c
    let three := cs.take 3
    let marker := three = ['-', '-', '-'] || three = ['.', '.', '.']
    let breaks := cs.any isWrittenBreak
    let special := !cs.all isWritable
    let breakSpace := hasAdjacent isWrittenBreak isSpace cs
    let spaceBreak := hasAdjacent isSpace isWrittenBreak cs
    let first := cs.headD ' '
    let last := cs.reverse.headD ' '
    ⟨false, breaks,
      !(edge first || edge last || breakSpace || spaceBreak || special || breaks || marker ||
        hasIndicator true true cs),
      !(breakSpace || spaceBreak || special),
      !(isSpace last || spaceBreak || special)⟩

/-- A scalar made ready for writing. -/
structure WrittenScalar where
  tag : Tag
  text : List Char
  literal : Bool

/-- Base 64 in lines of at most seventy-six characters. -/
def base64Lines : Nat → List Char → List Char
  | 0, _ => []
  | fuel + 1, cs =>
    if cs.isEmpty then [] else cs.take 76 ++ '\n' :: base64Lines fuel (cs.drop 76)

/-- The text of a double: always with a point or an exponent that follows a point. -/
def floatWritten (x : Float) : List Char :=
  match floatView x with
  | .nan => ".nan".toList
  | .infinite false => ".inf".toList
  | .infinite true => "-.inf".toList
  | .finite _ _ =>
    let cs := (floatText x).toList
    if cs.contains '.' then cs
    else cs.takeWhile (· ≠ 'e') ++ ".0".toList ++ cs.dropWhile (· ≠ 'e')

/-- A scalar made ready for writing. -/
def WrittenScalar.ofScalar : Scalar → WrittenScalar
  | .null => ⟨Tag.null, "null".toList, false⟩
  | .bool true => ⟨Tag.bool, "true".toList, false⟩
  | .bool false => ⟨Tag.bool, "false".toList, false⟩
  | .int n => ⟨Tag.int, (toString n).toList, false⟩
  | .float x => ⟨Tag.float, floatWritten x, false⟩
  | .text s => ⟨Tag.str, s.toList, false⟩
  | .bytes b =>
    let cs := (Text.base64 b).toList
    ⟨Tag.binary, base64Lines (cs.length + 1) cs, true⟩
  | .day _ d => ⟨Tag.timestamp, d.display, false⟩
  | .moment _ m => ⟨Tag.timestamp, m.written ' ', false⟩

namespace WrittenScalar

/-- The tag that the text implies when it is written plain. -/
def implied (w : WrittenScalar) : Tag := impliedTag (String.ofList w.text)

/-- The style a scalar is written in; a key must fit on its line. -/
def style (w : WrittenScalar) (isKey : Bool) : ScalarStyle :=
  let t := textTraits w.text
  if !w.literal && w.tag = w.implied && !(isKey && (t.empty || t.multiline)) && t.plainAllowed then
    .plain
  else if w.literal && !isKey && t.literalAllowed then .literal
  else if !w.literal && t.singleAllowed && !(isKey && t.multiline) then .single
  else .double

/-- The written tag, of a scalar whose style does not imply it. -/
def tagText (w : WrittenScalar) : List Char := "!!".toList ++ w.tag.toList.drop 18

/-- Whether the tag must be written. -/
def needsTag (w : WrittenScalar) (style : ScalarStyle) : Bool :=
  if style = .plain then w.tag ≠ w.implied else w.tag ≠ Tag.str

end WrittenScalar
end Storybind.Yaml
