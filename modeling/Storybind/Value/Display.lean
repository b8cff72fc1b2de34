import Storybind.Number.Shortest
import Storybind.Text.Pieces
import Storybind.Value

/-!
The text of a value: plain, as it is put into a message or a page, and quoted, as it stands inside a
list or a mapping. Texts are plain as they are; quoted they have quotes around them and escapes for
what does not print.
-/

namespace Storybind

namespace Text

/-- The quote around a quoted text: the single one, unless the text holds it and no double one. -/
def quoteFor (cs : List Char) : Char :=
  if cs.contains '\x27' && !cs.contains '\x22' then '\x22' else '\x27'

/-- The number of a character after a backslash, with two, four or eight digits. -/
def codeEscape (n : Nat) : List Char :=
  if n < 0x100 then '\\' :: 'x' :: hexPad 2 n
  else if n < 0x10000 then '\\' :: 'u' :: hexPad 4 n
  else '\\' :: 'U' :: hexPad 8 n

/-- The complaint about the first characters outside ASCII, if there are any. -/
def asciiComplaint? (s : List Char) : Option String :=
  let start := (s.takeWhile fun c => c.toNat < 128).length
  let complaint (about : String) : String :=
    "'ascii' codec can't encode " ++ about ++ ": ordinal not in range(128)"
  match (s.drop start).takeWhile fun c => 127 < c.toNat with
  | [] => none
  | [c] =>
    some (complaint ("character '" ++ String.ofList (codeEscape c.toNat) ++ "' in position " ++
      toString start))
  | run =>
    some (complaint ("characters in position " ++ toString start ++ "-" ++
      toString (start + run.length - 1)))

/-- The written form of one character between quotes. -/
def quoteChar (quote c : Char) : List Char :=
  if c = quote || c = '\\' then ['\\', c]
  else if c = '\n' then ['\\', 'n']
  else if c = '\r' then ['\\', 'r']
  else if c = '\t' then ['\\', 't']
  else if isPrintable c then [c]
  else codeEscape c.toNat

/-- A text between quotes. -/
def quoteChars (cs : List Char) : List Char :=
  let quote := quoteFor cs
  quote :: cs.flatMap (quoteChar quote) ++ [quote]

/-- A text between quotes in which only ASCII characters stand. -/
def quoteAsciiChars (cs : List Char) : List Char :=
  (quoteChars cs).flatMap fun c => if c.toNat < 128 then [c] else codeEscape c.toNat

/-- A text between quotes. -/
def quoted (s : String) : String := String.ofList (quoteChars s.toList)

/-- The written form of one byte between quotes. -/
def quoteByte (quote : Char) (b : UInt8) : List Char :=
  let n := b.toNat
  if 32 ≤ n && n ≤ 126 || n = 9 || n = 10 || n = 13 then quoteChar quote (Char.ofNat n)
  else '\\' :: 'x' :: hexPad 2 n

/-- A byte string between quotes. -/
def quoteBytes (bytes : Bytes) : List Char :=
  let quote := quoteFor (bytes.map fun b => Char.ofNat b.toNat)
  'b' :: quote :: bytes.flatMap (quoteByte quote) ++ [quote]

/-- A number with at least `width` digits. -/
def padNat (width n : Nat) : List Char :=
  let ds := (toString n).toList
  List.replicate (width - ds.length) '0' ++ ds

end Text

open Text (padNat)

/-- Year, month and day with hyphens. -/
def Day.display (d : Day) : List Char :=
  padNat 4 d.year ++ '-' :: padNat 2 d.month ++ '-' :: padNat 2 d.day

/-- The offset of a moment from UTC, as hours and minutes with a sign. -/
def offsetText (minutes : Int) : List Char :=
  (if minutes < 0 then '-' else '+') :: padNat 2 (minutes.natAbs / 60) ++
    ':' :: padNat 2 (minutes.natAbs % 60)

/-- Day and time of day, with `mark` between them. -/
def Moment.written (mark : Char) (m : Moment) : List Char :=
  m.day.display ++ mark :: padNat 2 m.hour ++ ':' :: padNat 2 m.minute ++ ':' :: padNat 2 m.second ++
    (if m.microsecond = 0 then [] else '.' :: padNat 6 m.microsecond) ++
    (match m.offset with
      | none => []
      | some o => offsetText o)

/-- The parts of a day or moment, as they stand in a quoted one. -/
def commaList (ns : List Nat) : List Char := (Text.join ", " (ns.map toString)).toList

def Day.quoted (d : Day) : List Char :=
  "datetime.date(".toList ++ commaList [d.year, d.month, d.day] ++ [')']

/-- The offset of a quoted moment. -/
def offsetQuoted (minutes : Int) : List Char :=
  if minutes = 0 then "datetime.timezone.utc".toList
  else
    let seconds := minutes * 60
    let span :=
      if seconds < 0 then "days=-1, seconds=" ++ toString (86400 + seconds)
      else "seconds=" ++ toString seconds
    ("datetime.timezone(datetime.timedelta(" ++ span ++ "))").toList

def Moment.quoted (m : Moment) : List Char :=
  let seconds := if m.microsecond = 0 then (if m.second = 0 then [] else [m.second])
    else [m.second, m.microsecond]
  "datetime.datetime(".toList ++
    commaList ([m.day.year, m.day.month, m.day.day, m.hour, m.minute] ++ seconds) ++
    (match m.offset with
      | none => []
      | some o => ", tzinfo=".toList ++ offsetQuoted o) ++ [')']

namespace Scalar

/-- The text of a scalar inside a list or mapping. -/
def quotedChars : Scalar → List Char
  | .null => "None".toList
  | .bool true => "True".toList
  | .bool false => "False".toList
  | .int n => (toString n).toList
  | .float x => (floatText x).toList
  | .text s => Text.quoteChars s.toList
  | .bytes b => Text.quoteBytes b
  | .day _ d => d.quoted
  | .moment _ m => m.quoted

/-- The text of a scalar that stands alone. -/
def displayChars : Scalar → List Char
  | .text s => s.toList
  | .day _ d => d.display
  | .moment _ m => m.written ' '
  | s => s.quotedChars

/-- The text of a scalar that stands alone. -/
def display (s : Scalar) : String := String.ofList s.displayChars

end Scalar

namespace Value

/-- The pieces with a comma and a space between them. -/
def commaJoin : List (List Char) → List Char
  | [] => []
  | [p] => p
  | p :: rest => p ++ ',' :: ' ' :: commaJoin rest

mutual

/-- The text of a value inside a list or mapping; `path` are the labels of the containers around it,
inside which it is not written once more. -/
def quotedIn (path : List Nat) : Value → List Char
  | .scalar s => s.quotedChars
  | .list label items =>
    if label ≠ 0 && path.contains label then "[...]".toList
    else '[' :: commaJoin (quotedItems (label :: path) items) ++ [']']
  | .mapping label entries =>
    if label ≠ 0 && path.contains label then "\x7b...\x7d".toList
    else '\x7b' :: commaJoin (quotedEntries (label :: path) entries) ++ ['\x7d']
  | .set _ members =>
    if members.isEmpty then "set()".toList
    else '\x7b' :: commaJoin (members.map Scalar.quotedChars) ++ ['\x7d']
  | .pair a b => '(' :: quotedIn path a ++ ',' :: ' ' :: quotedIn path b ++ [')']
  | .back _ => "[...]".toList

def quotedItems (path : List Nat) : List Value → List (List Char)
  | [] => []
  | v :: rest => quotedIn path v :: quotedItems path rest

def quotedEntries (path : List Nat) : List (Scalar × Value) → List (List Char)
  | [] => []
  | (k, v) :: rest =>
    (k.quotedChars ++ ':' :: ' ' :: quotedIn path v) :: quotedEntries path rest

end

/-- The text of a value inside a list or mapping. -/
def quoted (v : Value) : String := String.ofList (quotedIn [] v)

/-- The name of the kind of a value, as complaints give it. -/
def kindName : Value → String
  | .scalar s =>
    match s with
    | .null => "NoneType"
    | .bool _ => "bool"
    | .int _ => "int"
    | .float _ => "float"
    | .text _ => "str"
    | .bytes _ => "bytes"
    | .day _ _ => "datetime.date"
    | .moment _ _ => "datetime.datetime"
  | .list _ _ => "list"
  | .mapping _ _ => "dict"
  | .set _ _ => "set"
  | .pair _ _ => "tuple"
  | .back _ => "list"

/-- The text of a value that stands alone. -/
def display : Value → String
  | .scalar s => s.display
  | v => v.quoted

end Value
end Storybind
