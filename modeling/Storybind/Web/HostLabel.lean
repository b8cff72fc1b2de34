import Storybind.Text.Pieces
import Storybind.Text.Punycode
import Storybind.Value.Display
import Storybind.Web.LabelTable

/-!
Labels of host names, the parts between the points. A label may hold letters, marks and digits of any
writing system if it is composed, does not begin with a mark or a hyphen, keeps the rules of
characters that depend on their neighbours, and does not mix directions of writing. Such a label is
asked for in its ASCII form; `check` says what is wrong with any other text, `checkHost` with a host
in ASCII form.
-/

namespace Storybind.Web.HostLabel

open Text (inRanges)

/-- A character that may stand anywhere in a label. -/
def isPlain (c : Char) : Bool :=
  if c.toNat < 128 then Text.isAsciiDigit c || (97 ≤ c.toNat && c.toNat ≤ 122) || c = '-'
  else inRanges labelRanges c.toNat

def isNonspacing (c : Char) : Bool := inRanges nonspacingRanges c.toNat

/-- A mark. -/
def isMark (c : Char) : Bool := isNonspacing c || inRanges spacingRanges c.toNat

/-- The class of a mark, by which the marks of one letter are ordered; letters have class zero. -/
def markOrder (c : Char) : Nat :=
  match markOrders.find? fun r => r.1 ≤ c.toNat && c.toNat ≤ r.2.1 with
  | some r => r.2.2
  | none => 0

/-! ### Errors -/

/-- Why a text is no label, or no host of labels. Positions count from one. -/
inductive LabelError where
  | long
  | empty
  | bare
  | hyphenLast
  | uncoded
  | uncomposed
  | hyphensInside
  | hyphenOutside
  | mark
  | character (c : Char) (position : Nat) (label : String)
  | joiner (c : Char) (position : Nat) (label : String)
  | neighbours (c : Char) (position : Nat) (label : String)
  | firstDirection (label : String)
  | intoLeft (position : Nat)
  | intoRight (position : Nat)
  | mixedNumbers
  | lastDirection
deriving DecidableEq, Repr

/-- The number of a character with at least four digits. -/
def codeText (c : Char) : String :=
  let ds := Text.hexCode c
  "U+" ++ String.ofList ((List.replicate (4 - ds.length) '0' ++ ds).map Char.toUpper)

def LabelError.message : LabelError → String
  | .long => "Domain too long"
  | .empty => "Empty Label"
  | .bare => "Malformed A-label, no Punycode eligible content found"
  | .hyphenLast => "A-label must not end with a hyphen"
  | .uncoded => "Invalid A-label"
  | .uncomposed => "Label must be in Normalization Form C"
  | .hyphensInside => "Label has disallowed hyphens in 3rd and 4th position"
  | .hyphenOutside => "Label must not start or end with a hyphen"
  | .mark => "Label begins with an illegal combining character"
  | .character c position label =>
    "Codepoint " ++ codeText c ++ " at position " ++ toString position ++ " of " ++
      Text.quoted label ++ " not allowed"
  | .joiner c position label =>
    "Unknown codepoint adjacent to joiner " ++ codeText c ++ " at position " ++
      toString position ++ " in " ++ Text.quoted label
  | .neighbours c position label =>
    "Codepoint " ++ codeText c ++ " not allowed at position " ++ toString position ++ " in " ++
      Text.quoted label
  | .firstDirection label =>
    "First codepoint in label " ++ Text.quoted label ++ " must be directionality L, R or AL"
  | .intoLeft position =>
    "Invalid direction for codepoint at position " ++ toString position ++
      " in a right-to-left label"
  | .intoRight position =>
    "Invalid direction for codepoint at position " ++ toString position ++
      " in a left-to-right label"
  | .mixedNumbers => "Can not mix numeral types in a right-to-left label"
  | .lastDirection => "Label ends with illegal codepoint directionality"

/-! ### Composition -/

/-- The character that two make together. -/
def together? (a b : Char) : Option Char := do
  let row ← compositions.find? fun r => r.1 = b.toNat
  let found ← row.2.find? fun p => p.1 = a.toNat
  Text.Punycode.charAt? found.2

/-- The two characters that one is made of. -/
def apart? (c : Char) : Option (Char × Char) :=
  compositions.findSome? fun r => do
    let found ← r.2.find? fun p => p.2 = c.toNat
    pure (← Text.Punycode.charAt? found.1, ← Text.Punycode.charAt? r.1)

/-- A character taken apart; `depth` bounds the number of its marks. -/
def takeApart : Nat → Char → List Char
  | 0, c => [c]
  | depth + 1, c =>
    match apart? c with
    | some (a, b) => takeApart depth a ++ [b]
    | none => [c]

/-- A text with the marks of each letter in order of their classes; `marks` are those since the
last letter. -/
def orderMarks (marks : List Char) : List Char → List Char
  | [] => marks.mergeSort fun a b => markOrder a ≤ markOrder b
  | c :: rest =>
    if markOrder c = 0 then
      (marks.mergeSort fun a b => markOrder a ≤ markOrder b) ++ c :: orderMarks [] rest
    else orderMarks (marks ++ [c]) rest

/-- A text with marks joined to the letters that they make one character with. `marks` are those
after the letter that are not joined to it. -/
def join (letter : Option Char) (marks : List Char) : List Char → List Char
  | [] => letter.toList ++ marks
  | c :: rest =>
    let free : Bool := marks.getLast?.all fun m => markOrder m < markOrder c
    match if free then letter.bind fun a => together? a c else none with
    | some x => join (some x) marks rest
    | none =>
      if markOrder c = 0 then letter.toList ++ marks ++ join (some c) [] rest
      else join letter (marks ++ [c]) rest

/-- Whether two characters are parts of one Hangul syllable. -/
def isSyllable (a b : Char) : Bool :=
  let within (low high : Nat) (c : Char) : Bool := low ≤ c.toNat && c.toNat ≤ high
  (within 0x1100 0x1112 a && within 0x1161 0x1175 b) ||
    (within 0xac00 0xd7a3 a && (a.toNat - 0xac00) % 28 = 0 && within 0x11a8 0x11c2 b)

/-- Whether a text is written with as few characters as it can be. -/
def isComposed (label : List Char) : Bool :=
  !(label.any fun c => inRanges replacedRanges c.toNat) &&
    !((label.zip (label.drop 1)).any fun p => isSyllable p.1 p.2) &&
    join none [] (orderMarks [] (label.flatMap (takeApart 4))) = label

/-! ### Characters that depend on their neighbours -/

/-- Whether the first character that joining does not pass over belongs to a class. -/
def reachesJoining (p : Nat → Bool) (s : List Char) : Bool :=
  ((s.dropWhile isNonspacing).head?).any fun c => p c.toNat

/-- A character that joins or keeps apart the letters around it. -/
def isJoiner (c : Char) : Bool := c.toNat = 0x200c || c.toNat = 0x200d

/-- A character that may stand in a label between certain others. -/
def isDependent (c : Char) : Bool :=
  [0xb7, 0x375, 0x5f3, 0x5f4, 0x30fb].contains c.toNat || (0x660 ≤ c.toNat && c.toNat ≤ 0x669) ||
    (0x6f0 ≤ c.toNat && c.toNat ≤ 0x6f9)

/-- Whether a joiner may stand between others; `before` is what precedes it, nearest first. -/
def joinerFits (before : List Char) (c : Char) (after : List Char) : Bool :=
  let joinsAny (n : Nat) : Bool := inRanges dualJoiningRanges n
  before.head?.any (fun b => markOrder b = 9) ||
    (c.toNat = 0x200c &&
      reachesJoining (fun n => joinsAny n || inRanges leftJoiningRanges n) before &&
      reachesJoining (fun n => joinsAny n || inRanges rightJoiningRanges n) after)

/-- Whether a dependent character may stand between others. -/
def neighboursFit (label before : List Char) (c : Char) (after : List Char) : Bool :=
  let n := c.toNat
  if n = 0xb7 then before.head? = some 'l' && after.head? = some 'l'
  else if n = 0x375 then after.head?.any fun a => inRanges greekRanges a.toNat
  else if n = 0x5f3 || n = 0x5f4 then before.head?.any fun b => inRanges hebrewRanges b.toNat
  else if n = 0x30fb then label.any fun x => inRanges kanaHanRanges x.toNat
  else if n ≤ 0x669 then !label.any fun x => 0x6f0 ≤ x.toNat && x.toNat ≤ 0x6f9
  else !label.any fun x => 0x660 ≤ x.toNat && x.toNat ≤ 0x669

/-- Checks every character where it stands. -/
def checkCharacters (label : List Char) : List Char → List Char → Except LabelError Unit
  | _, [] => .ok ()
  | before, c :: after =>
    let position := before.length + 1
    if isPlain c then checkCharacters label (c :: before) after
    else if isJoiner c then
      if joinerFits before c after then checkCharacters label (c :: before) after
      else .error (.joiner c position (String.ofList label))
    else if isDependent c then
      if neighboursFit label before c after then checkCharacters label (c :: before) after
      else .error (.neighbours c position (String.ofList label))
    else .error (.character c position (String.ofList label))

/-! ### Directions -/

/-- How a character is written. -/
inductive Direction where
  | left
  | right
  | number
  | arabicNumber
  | mark
  | neutral
deriving DecidableEq, Repr

def direction (c : Char) : Direction :=
  let n := c.toNat
  if Text.isAsciiDigit c || (0x6f0 ≤ n && n ≤ 0x6f9) then .number
  else if c = '-' || n = 0x200c || n = 0x200d || inRanges neutralRanges n then .neutral
  else if inRanges rightToLeftRanges n then .right
  else if inRanges arabicNumberRanges n then .arabicNumber
  else if isNonspacing c then .mark
  else .left

/-- Checks what follows in a label that is written from right to left: no letters written from left
to right, digits of one kind, and a letter or digit at the end. `numbers` is the kind of digits so far
and `ended` whether the text may end here; marks do not count. -/
def checkRight (numbers : Option Direction) (ended : Bool) (position : Nat) :
    List Direction → Except LabelError Unit
  | [] => if ended then .ok () else .error .lastDirection
  | d :: ds =>
    match d with
    | .left => .error (.intoLeft position)
    | .right => checkRight numbers true (position + 1) ds
    | .mark => checkRight numbers ended (position + 1) ds
    | .neutral => checkRight numbers false (position + 1) ds
    | .number | .arabicNumber =>
      if numbers.all (· = d) then checkRight (some d) true (position + 1) ds
      else .error .mixedNumbers

/-- Checks that a label keeps to one direction, if anything in it is written from right to left: it
begins with a letter and holds no letters of the other direction. -/
def checkDirections (label : List Char) : Except LabelError Unit :=
  let ds := label.map direction
  let isRight (d : Direction) : Bool := d = .right || d = .arabicNumber
  if !ds.any isRight then .ok ()
  else
    match ds with
    | .right :: _ => checkRight none false 1 ds
    | .left :: _ => .error (.intoRight ((ds.takeWhile fun d => !isRight d).length + 1))
    | _ => .error (.firstDirection (String.ofList label))

/-! ### Labels -/

/-- Checks that a text may be a label. -/
def check (label : List Char) : Except LabelError Unit := do
  if label.isEmpty then throw .empty
  if !isComposed label then throw .uncomposed
  if (label.drop 2).take 2 = ['-', '-'] then throw .hyphensInside
  if label.head? = some '-' || label.getLast? = some '-' then throw .hyphenOutside
  if label.head?.any isMark then throw .mark
  checkCharacters label [] label
  checkDirections label

/-- What the ASCII form of other labels begins with. -/
def mark : List Char := ['x', 'n', '-', '-']

/-- Checks a label in ASCII form. -/
def checkAscii (label : List Char) : Except LabelError Unit :=
  match Text.after? mark label with
  | none => check label
  | some coded =>
    if coded.isEmpty then .error .bare
    else if coded.getLast? = some '-' then .error .hyphenLast
    else
      match Text.Punycode.decode? coded with
      | none => .error .uncoded
      | some text => check text

/-- The ASCII form of a label in small letters, if it is one. -/
def toAscii? (label : List Char) : Option (List Char) :=
  let ascii := label.all fun c => c.toNat < 128
  let form := if ascii then label else mark ++ Text.Punycode.encode label
  match if ascii then checkAscii label else check label with
  | .ok () => if form.length ≤ 63 then some form else none
  | .error _ => none

/-- A point between labels, in any of its forms. -/
def isPoint (c : Char) : Bool :=
  c = '.' || c.toNat = 0x3002 || c.toNat = 0xff0e || c.toNat = 0xff61

/-- The labels of a host name. -/
def split : List Char → List (List Char)
  | [] => [[]]
  | c :: cs =>
    if isPoint c then [] :: split cs
    else
      match split cs with
      | [] => [[c]]
      | p :: ps => (c :: p) :: ps

/-- The labels of a host name, and whether a point ends it. -/
def splitHost (host : List Char) : List (List Char) × Bool :=
  let labels := split host
  let ended : Bool := labels.getLast? = some []
  (if ended then labels.dropLast else labels, ended)

/-- The ASCII form of a host name in small letters; a point may end it. -/
def hostToAscii? (host : List Char) : Option (List Char) := do
  let (labels, ended) := splitHost host
  let forms ← labels.mapM toAscii?
  let form := ['.'].intercalate forms ++ (if ended then ['.'] else [])
  if forms.isEmpty || (if ended then 254 else 253) < form.length then none else some form

/-- Checks a host in ASCII form. One that does not begin like the ASCII form of a label needs no
check. -/
def checkHost (host : List Char) : Except LabelError Unit :=
  if (Text.after? mark host).isNone then .ok ()
  else if 254 < host.length then .error .long
  else (splitHost host).1.forM fun label => checkAscii (label.map Char.toLower)

end Storybind.Web.HostLabel
