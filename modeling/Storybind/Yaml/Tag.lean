import Storybind.Text.Pieces

/-!
Tags of plain scalars: the type that the written form of a scalar implies when none is given.
-/

namespace Storybind.Yaml

/-- The type of a node, by its written tag. -/
abbrev Tag := String

namespace Tag

def core (name : String) : Tag := "tag:yaml.org,2002:" ++ name

def null : Tag := core "null"
def bool : Tag := core "bool"
def int : Tag := core "int"
def float : Tag := core "float"
def timestamp : Tag := core "timestamp"
def str : Tag := core "str"
def seq : Tag := core "seq"
def map : Tag := core "map"
def set : Tag := core "set"
def omap : Tag := core "omap"
def pairs : Tag := core "pairs"
def binary : Tag := core "binary"
def merge : Tag := core "merge"
def value : Tag := core "value"
def yaml : Tag := core "yaml"

end Tag

open Text (isAsciiDigit)

/-- A digit or an underscore. -/
def isDigitOr_ (c : Char) : Bool := isAsciiDigit c || c = '_'

/-- The text without one leading sign. -/
def dropSign : List Char → List Char
  | '-' :: cs => cs
  | '+' :: cs => cs
  | cs => cs

/-- The words for truth values. -/
def truthWords : List String :=
  ["yes", "Yes", "YES", "no", "No", "NO", "true", "True", "TRUE", "false", "False", "FALSE",
    "on", "On", "ON", "off", "Off", "OFF"]

/-- An exponent with its sign and at least one digit, or nothing. -/
def isExponent : List Char → Bool
  | [] => true
  | e :: sign :: ds =>
    (e = 'e' || e = 'E') && (sign = '-' || sign = '+') && !ds.isEmpty && ds.all isAsciiDigit
  | _ => false

/-- A colon and one or two digits below sixty. -/
def sixtieth? : List Char → Option (List Char)
  | ':' :: a :: b :: rest =>
    if isAsciiDigit a then
      if isAsciiDigit b && a.toNat ≤ 53 then some rest else some (b :: rest)
    else none
  | ':' :: a :: [] => if isAsciiDigit a then some [] else none
  | _ => none

/-- Groups of sixtieths up to the end, or up to a point when `pointed`. -/
def areSixtieths (pointed : Bool) : Nat → List Char → Bool
  | 0, _ => false
  | fuel + 1, cs =>
    match sixtieth? cs with
    | none => false
    | some rest =>
      (if pointed then
        match rest with
        | '.' :: ds => ds.all isDigitOr_
        | _ => false
      else rest.isEmpty) || areSixtieths pointed fuel rest

/-- The written form of a floating-point number. -/
def isFloat (s : List Char) : Bool :=
  let body := dropSign s
  let lead := body.takeWhile isDigitOr_
  let rest := body.dropWhile isDigitOr_
  let starts := (body.head?.map isAsciiDigit).getD false
  (starts && match rest with
    | '.' :: r => isExponent (r.dropWhile isDigitOr_)
    | _ => areSixtieths true rest.length rest) ||
  (lead.isEmpty && (body = ".inf".toList || body = ".Inf".toList || body = ".INF".toList)) ||
  (match s with
    | '.' :: d :: r => isAsciiDigit d && isExponent (r.dropWhile isDigitOr_)
    | _ => false) ||
  s = ".nan".toList || s = ".NaN".toList || s = ".NAN".toList

/-- The written form of a whole number. -/
def isInt (s : List Char) : Bool :=
  match dropSign s with
  | [] => false
  | '0' :: [] => true
  | '0' :: 'b' :: ds => !ds.isEmpty && ds.all fun c => c = '0' || c = '1' || c = '_'
  | '0' :: 'x' :: ds => !ds.isEmpty && ds.all fun c => (Text.hexValue? c).isSome || c = '_'
  | '0' :: ds => ds.all fun c => c = '_' || (48 ≤ c.toNat && c.toNat ≤ 55)
  | d :: ds =>
    isAsciiDigit d &&
      (ds.all isDigitOr_ ||
        areSixtieths false (ds.length + 1) (ds.dropWhile isDigitOr_))

/-- Reads between `least` and `most` digits, as many as there are. -/
def digits? (least most : Nat) (cs : List Char) : Option (Nat × List Char) :=
  let ds := (cs.take most).takeWhile isAsciiDigit
  if ds.length < least then none
  else some (ds.foldl (fun n d => n * 10 + (d.toNat - 48)) 0, cs.drop ds.length)

/-- Reads one character. -/
def mark? (c : Char) : List Char → Option (List Char)
  | x :: rest => if x = c then some rest else none
  | [] => none

/-- The parts of a written moment. -/
structure MomentParts where
  year : Nat
  month : Nat
  day : Nat
  time : Option (Nat × Nat × Nat)
  fraction : List Char
  offset : Option Int
deriving Repr

/-- Reads an offset from UTC at the end of a moment. -/
def offset? (cs : List Char) : Option (Option Int) :=
  match cs.dropWhile fun c => c = ' ' || c = '\t' with
  | [] => if cs.isEmpty then some none else none
  | 'Z' :: [] => some (some 0)
  | sign :: rest =>
    if sign = '-' || sign = '+' then do
      let (h, rest) ← digits? 1 2 rest
      let m ← match rest with
        | [] => some 0
        | ':' :: r => do
          let (m, r) ← digits? 2 2 r
          if r.isEmpty then some m else none
        | _ => none
      let n : Int := (h * 60 + m : Nat)
      pure (some (if sign = '-' then -n else n))
    else none

/-- Reads the time of day of a moment, after the day. -/
def time? (cs : List Char) : Option ((Nat × Nat × Nat) × List Char × Option Int) := do
  let rest ← match cs with
    | 'T' :: r => some r
    | 't' :: r => some r
    | c :: r => if c = ' ' || c = '\t' then
        some (r.dropWhile fun c => c = ' ' || c = '\t') else none
    | [] => none
  let (h, rest) ← digits? 1 2 rest
  let rest ← mark? ':' rest
  let (m, rest) ← digits? 2 2 rest
  let rest ← mark? ':' rest
  let (s, rest) ← digits? 2 2 rest
  let (fraction, rest) := match rest with
    | '.' :: r => (r.takeWhile isAsciiDigit, r.dropWhile isAsciiDigit)
    | r => ([], r)
  let o ← offset? rest
  pure ((h, m, s), fraction, o)

/-- Reads a day or a moment; `strict` asks for two digits of month and day when no time follows. -/
def moment? (strict : Bool) (cs : List Char) : Option MomentParts := do
  let (y, rest) ← digits? 4 4 cs
  let rest ← mark? '-' rest
  let monthStart := rest
  let (mo, rest) ← digits? 1 2 rest
  let monthWidth := monthStart.length - rest.length
  let rest ← mark? '-' rest
  let dayStart := rest
  let (d, rest) ← digits? 1 2 rest
  let dayWidth := dayStart.length - rest.length
  if rest.isEmpty then
    if strict && !(monthWidth = 2 && dayWidth = 2) then none
    else some ⟨y, mo, d, none, [], none⟩
  else
    let (t, fraction, o) ← time? rest
    pure ⟨y, mo, d, some t, fraction, o⟩

/-- The text without one line feed at its end, which the forms of scalars pass over. -/
def dropFinalBreak (cs : List Char) : List Char :=
  match cs.reverse with
  | '\n' :: r => r.reverse
  | _ => cs

/-- The tag that the written form of a plain scalar implies. -/
def impliedTag (s : String) : Tag :=
  let cs := dropFinalBreak s.toList
  let text := String.ofList cs
  if truthWords.contains text then Tag.bool
  else if isFloat cs then Tag.float
  else if isInt cs then Tag.int
  else if text = "<<" then Tag.merge
  else if s.isEmpty || (text = "~" || text = "null" || text = "Null" || text = "NULL") then Tag.null
  else if (moment? true cs).isSome then Tag.timestamp
  else if text = "=" then Tag.value
  else if text = "!" || text = "&" || text = "*" then Tag.yaml
  else Tag.str

end Storybind.Yaml
