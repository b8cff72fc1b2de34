import Storybind.Text.Pieces

/-!
Style sheets without comments and without blanks that do not matter. Strings are kept; the last
semicolon of a block goes away, and so do semicolons that end the text. Whether a colon belongs to a
selector depends on the block around it, so the run keeps track of blocks and of rules that group
other rules.
-/

namespace Storybind.Minify.Style

/-- Where the run is: inside a comment that hides rules from an old browser, the number of open
blocks of declarations, and the number of grouping rules whose block is still to open. -/
structure Place where
  hidden : Bool
  blocks : Nat
  groups : Nat
deriving DecidableEq

namespace Place

/-- The start of a style sheet. -/
def start : Place := ⟨false, 0, 0⟩

/-- Whether a selector may stand here. -/
def atSelector (place : Place) : Bool := place.blocks = 0 && place.groups = 0

end Place

/-- A blank. -/
def isBlank (c : Char) : Bool :=
  c = ' ' || c = '\t' || c = '\n' || c = '\r' || c.toNat = 12

/-- A line end. -/
def isLineEnd (c : Char) : Bool := c = '\n' || c = '\r' || c.toNat = 12

/-- A character of a name. -/
def isNameChar (c : Char) : Bool :=
  Text.isAsciiAlnum c || c = '-' || c = '_' || 128 ≤ c.toNat

/-- A character that is written as it is, whatever stands around it. -/
def isDull (c : Char) : Bool := !isBlank c && !"\\\x22\x27u>@/;:\x7b\x7d+".toList.contains c

/-- What follows the end of a comment, with the comment's text. -/
def commentBody : List Char → Option (List Char × List Char)
  | [] => none
  | '*' :: '/' :: rest => some (['*', '/'], rest)
  | c :: rest => (commentBody rest).map fun r => (c :: r.1, r.2)

/-- Blanks and comments at the start of a text, and the rest; `fuel` bounds their number. -/
def spaces : Nat → List Char → List Char × List Char
  | 0, s => ([], s)
  | fuel + 1, s =>
    match s with
    | '/' :: '*' :: rest =>
      match commentBody rest with
      | some (body, r) =>
        let more := spaces fuel r
        ('/' :: '*' :: body ++ more.1, more.2)
      | none => ([], s)
    | c :: rest =>
      if isBlank c then
        let more := spaces fuel rest
        (c :: more.1, more.2)
      else ([], s)
    | [] => ([], [])

/-- What remains of blanks, comments and semicolons: the comments that hide rules, in short. A
comment hides what follows it if a backslash stands before its end. -/
def reduced : Nat → Bool → List Char → List Char × Bool
  | 0, hidden, _ => ([], hidden)
  | _, hidden, [] => ([], hidden)
  | fuel + 1, hidden, '/' :: '*' :: rest =>
    match commentBody rest with
    | some (body, r) =>
      let hides : Bool := (body.dropLast.dropLast).getLast? = some '\\'
      let more := reduced fuel hides r
      let written := if hides = hidden then []
        else if hides then "/*\\*/".toList else "/**/".toList
      (written ++ more.1, more.2)
    | none => ([], hidden)
  | fuel + 1, hidden, _ :: rest => reduced fuel hidden rest

/-- Blanks, comments and semicolons at the start of a text, and the rest. -/
def semicolons : Nat → List Char → List Char × List Char
  | 0, s => ([], s)
  | fuel + 1, s =>
    let (text, rest) := spaces s.length s
    match rest with
    | ';' :: r =>
      let more := semicolons fuel r
      (text ++ ';' :: more.1, more.2)
    | _ => (text, rest)

/-- Whether the comments and semicolons of a text end it with a semicolon that must be written: one
stands before the text, and only blanks and comments follow the last one. -/
def needsSemicolon (place : Place) (text rest : List Char) : Bool :=
  match rest.head? with
  | none => !text.isEmpty && text.getLast? ≠ some ';'
  | some c => !(c = '\x7d' && 0 < place.blocks)

/-- A line end that an escape takes away: what follows it. -/
def afterLineEnd? : List Char → Option (List Char)
  | '\r' :: '\n' :: rest => some rest
  | c :: rest => if isLineEnd c then some rest else none
  | [] => none

/-- A digit of an escape. -/
def isHex (c : Char) : Bool :=
  Text.isAsciiDigit c || ('a' ≤ c && c ≤ 'f') || ('A' ≤ c && c ≤ 'F')

/-- What is written for an escape after its backslash, and the rest. Up to six digits take one blank
with them; a line end goes away. -/
def escape : List Char → List Char × List Char
  | [] => (['\\'], [])
  | c :: rest =>
    if isHex c then
      let digits := ((c :: rest).take 6).takeWhile isHex
      let after := (c :: rest).drop digits.length
      match after with
      | '\r' :: '\n' :: r => ('\\' :: digits ++ [' '], r)
      | d :: r => if isBlank d then ('\\' :: digits ++ [' '], r) else ('\\' :: digits, after)
      | [] => ('\\' :: digits, [])
    else if isLineEnd c then (['\\'], rest)
    else (['\\', c], rest)

/-- Reads a string up to its closing quote, without the line ends that a backslash hides. -/
def stringBody (quote : Char) : List Char → Option (List Char × List Char)
  | [] => none
  | '\\' :: '\r' :: '\n' :: rest => stringBody quote rest
  | '\\' :: c :: rest =>
    if isLineEnd c then stringBody quote rest
    else (stringBody quote rest).map fun r => ('\\' :: c :: r.1, r.2)
  | c :: rest =>
    if c = quote then some ([c], rest)
    else if isLineEnd c then none
    else (stringBody quote rest).map fun r => (c :: r.1, r.2)

/-- A string at the start of a text, and the rest. -/
def string? : List Char → Option (List Char × List Char)
  | c :: rest =>
    if c = '\x27' || c = '\x22' then (stringBody c rest).map fun r => (c :: r.1, r.2) else none
  | [] => none

/-- The text of an address without its blanks, up to the character that closes it, and what follows
that; `quote` closes a quoted address, a parenthesis a plain one, and `fuel` bounds its length. -/
def addressBody (quote : Option Char) : Nat → List Char → Option (List Char × List Char)
  | 0, _ => none
  | _, [] => none
  | fuel + 1, '\\' :: rest =>
    match afterLineEnd? rest with
    | some r => addressBody quote fuel r
    | none =>
      let (text, r) := escape rest
      (addressBody quote fuel r).map fun more => (text ++ more.1, more.2)
  | fuel + 1, c :: rest =>
    if c = quote.getD ')' then some ([], rest)
    else if isBlank c then addressBody quote fuel rest
    else if quote.isNone && (c.toNat < 32 || c.toNat = 127 || "\x22\x27(".toList.contains c) then none
    else (addressBody quote fuel rest).map fun more => (c :: more.1, more.2)

/-- An address reference after its opening parenthesis: what is written for it, and the rest. -/
def address? (s : List Char) : Option (List Char × List Char) :=
  let close (text : List Char) (rest : List Char) := ("url(".toList ++ text ++ [')'], rest)
  match s.dropWhile isBlank with
  | [] => none
  | c :: rest =>
    if c = '\x27' || c = '\x22' then
      (addressBody (some c) rest.length rest).bind fun (text, after) =>
        match after.dropWhile isBlank with
        | ')' :: r => some (close (c :: text ++ [c]) r)
        | _ => none
    else (addressBody none (rest.length + 1) (c :: rest)).map fun (text, r) => close text r

/-- The rules that group other rules. -/
def groupingRules : List String :=
  ["media", "supports", "document", "keyframes", "-webkit-keyframes", "-moz-keyframes",
    "-o-keyframes", "-ms-keyframes"]

/-- The name of a grouping rule at the start of a text, and the rest. -/
def grouping? (s : List Char) : Option (List Char × List Char) :=
  let name := s.takeWhile isNameChar
  if groupingRules.contains (String.ofList (name.map Char.toLower)) then
    some (name, s.drop name.length)
  else none

/-- A first line or first letter at the start of a text, and the rest. -/
def firstPart? (s : List Char) : Option (List Char × List Char) :=
  [":first-line", ":first-letter"].findSome? fun w =>
    let head := s.take w.length
    if String.ofList (head.map Char.toLower) = w then some (head, s.drop w.length) else none

/-- Characters after which blanks do not matter. -/
def closesUpAfter (c : Char) : Bool := "\x7b\x7d(=:>[,!".toList.contains c

/-- Characters before which blanks do not matter. -/
def closesUpBefore (c : Char) : Bool := ":\x7b\x7d);=>],!".toList.contains c

/-- What remains of blanks and comments at a place, and the place after them. -/
def Place.keep (place : Place) (text : List Char) : List Char × Place :=
  let r := reduced text.length place.hidden text
  (r.1, { place with hidden := r.2 })

/-- Whether blanks between two characters can go; `none` stands for an end of the text. -/
def closesUp (place : Place) (before next : Option Char) : Bool :=
  before.all closesUpAfter || next.all fun c => closesUpBefore c && !(c = ':' && place.atSelector)

/-- What is written for a mark that no blank begins with, what follows, and the place then. -/
def mark (place : Place) (before : Option Char) (c : Char) (cs : List Char) :
    List Char × List Char × Place :=
  match c with
  | '\\' => let (text, rest) := escape cs; (text, rest, place)
  | ';' =>
    let (text, rest) := semicolons cs.length cs
    let (kept, next) := place.keep text
    (if needsSemicolon place text rest then ';' :: kept else kept, rest, next)
  | '\x7b' =>
    ([c], cs, if 0 < place.groups then { place with groups := place.groups - 1 }
      else { place with blocks := place.blocks + 1 })
  | '\x7d' => ([c], cs, { place with blocks := place.blocks - 1 })
  | '@' =>
    match grouping? cs with
    | some (name, rest) => (c :: name, rest, { place with groups := place.groups + 1 })
    | none => ([c], cs, place)
  | '>' =>
    match if place.atSelector then Text.after? "/**/".toList cs else none with
    | some rest =>
      let (text, rest) := spaces rest.length rest
      let (kept, next) := { place with hidden := false }.keep text
      (">/**/".toList ++ kept, rest, next)
    | none => ([c], cs, place)
  | ':' =>
    match firstPart? (c :: cs) with
    | some (name, after) =>
      let (text, rest) := spaces after.length after
      if rest.head? = some '\x7b' || rest.head? = some ',' then
        let (kept, next) := place.keep text
        (name ++ ' ' :: kept, rest, next)
      else ([c], cs, place)
    | none => ([c], cs, place)
  | 'u' =>
    match if before.any isNameChar then none else Text.after? "rl(".toList cs with
    | some r =>
      match address? r with
      | some (text, rest) => (text, rest, place)
      | none => ([c], cs, place)
    | none => ([c], cs, place)
  | _ =>
    match string? (c :: cs) with
    | some (text, rest) => (text, rest, place)
    | none => ([c], cs, place)

/-- One step: what is written, what follows, and where the run is then. -/
def step (place : Place) (before : Option Char) (c : Char) (cs : List Char) :
    List Char × List Char × Place :=
  if isDull c then ([c], cs, place)
  else
    let (blank, rest) := spaces (cs.length + 1) (c :: cs)
    if blank.isEmpty then mark place before c cs
    else
      let (kept, next) := place.keep blank
      (if closesUp place before rest.head? then kept else ' ' :: kept, rest, next)

/-- The minified text; `fuel` bounds the number of steps. -/
def run : Nat → Place → Option Char → List Char → List Char
  | 0, _, _, _ => []
  | _, _, _, [] => []
  | fuel + 1, place, before, c :: cs =>
    let (written, rest, next) := step place before c cs
    let last := ((c :: cs).drop (cs.length - rest.length)).head?
    written ++ run fuel next last rest

/-- The minified style sheet. -/
def minify (source : String) : String :=
  let s := source.toList
  String.ofList (run s.length .start none s)

end Storybind.Minify.Style
