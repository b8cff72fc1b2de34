import Storybind.Text.Pieces

/-!
Script source without comments and without blanks that do not matter. Strings, templates and regular
expressions are kept as they are; a line break stays where a statement could end. Every decision
looks at the last character written and at the next one of the source, so blanks and comments that
are left out never change what a slash means.
-/

namespace Storybind.Minify.Script

/-- A line break. -/
def isBreak (c : Char) : Bool := c = '\n' || c = '\r'

/-- A character of a name; everything outside ASCII counts. -/
def isNameChar (c : Char) : Bool :=
  Text.isAsciiAlnum c || c = '_' || c = '$' || 127 ≤ c.toNat

/-- A character that a statement may begin with. -/
def opensStatement (c : Char) : Bool := isNameChar c || "\x7b[(!+-".toList.contains c

/-- A character that a statement may end with. -/
def closesStatement (c : Char) : Bool :=
  isNameChar c || "\x7d])\x22\x27\x60+-".toList.contains c

/-- Characters after which a slash begins a regular expression. -/
def beforeRegex (c : Char) : Bool := "(,=:[!&|?\x7b\x7d;\r\n+*-".toList.contains c

/-- Characters that go on with an expression on the next line after a regular expression. -/
def continuesExpression (c : Char) : Bool :=
  c.toNat ≤ 32 || "&)+,.:;=?]|\x7d-".toList.contains c

/-- A character that no string, comment, regular expression or blank begins with. -/
def isDull (c : Char) : Bool :=
  32 < c.toNat && c ≠ '\x27' && c ≠ '\x22' && c ≠ '\x60' && c ≠ '/'

/-- What follows the end of a block comment. -/
def afterComment? : List Char → Option (List Char)
  | [] => none
  | '*' :: '/' :: rest => some rest
  | _ :: rest => afterComment? rest

/-- Skips blanks and comments, and says whether there was a line break outside the block comments;
`fuel` bounds their number. -/
def skipBlanks : Nat → Bool → List Char → Bool × List Char
  | 0, broken, s => (broken, s)
  | fuel + 1, broken, s =>
    match s with
    | '/' :: '/' :: rest => skipBlanks fuel broken (rest.dropWhile fun c => !isBreak c)
    | '/' :: '*' :: rest =>
      match afterComment? rest with
      | some r => skipBlanks fuel broken r
      | none => (broken, s)
    | c :: rest =>
      if c.toNat ≤ 32 then skipBlanks fuel (broken || isBreak c) rest else (broken, s)
    | [] => (broken, [])

/-- What follows the blanks and comments at the start of a text, and whether they break the line. -/
def afterBlanks (s : List Char) : Bool × List Char := skipBlanks s.length false s

/-- Reads a string up to its closing quote; `lines` says whether it may go over several lines. -/
def stringBody (quote : Char) (lines : Bool) : List Char → Option (List Char × List Char)
  | [] => none
  | '\\' :: '\r' :: '\n' :: rest =>
    (stringBody quote lines rest).map fun r => ('\\' :: '\r' :: '\n' :: r.1, r.2)
  | '\\' :: c :: rest => (stringBody quote lines rest).map fun r => ('\\' :: c :: r.1, r.2)
  | c :: rest =>
    if c = quote then some ([c], rest)
    else if !lines && isBreak c then none
    else (stringBody quote lines rest).map fun r => (c :: r.1, r.2)

/-- A string at the start of a text, and the rest. -/
def string? : List Char → Option (List Char × List Char)
  | c :: rest =>
    if c = '\x27' || c = '\x22' then (stringBody c false rest).map fun r => (c :: r.1, r.2)
    else if c = '\x60' then (stringBody c true rest).map fun r => (c :: r.1, r.2)
    else none
  | [] => none

/-- Reads a regular expression up to its closing slash; `inside` says whether a class is open, in
which a line may break. -/
def regexBody (inside : Bool) : List Char → Option (List Char × List Char)
  | [] => none
  | '\\' :: c :: rest =>
    if isBreak c && !inside then none
    else (regexBody inside rest).map fun r => ('\\' :: c :: r.1, r.2)
  | c :: rest =>
    if isBreak c && !inside then none
    else if c = '/' && !inside then some ([c], rest)
    else
      let inside := if inside then c ≠ ']' else c = '['
      (regexBody inside rest).map fun r => (c :: r.1, r.2)

/-- A regular expression with its flags at the start of a text, and the rest. -/
def regex? : List Char → Option (List Char × List Char)
  | '/' :: c :: rest =>
    if c = '/' || c = '*' then none
    else
      (regexBody false (c :: rest)).map fun r =>
        let isFlag (c : Char) : Bool := 97 ≤ c.toNat && c.toNat ≤ 122
        ('/' :: r.1 ++ r.2.takeWhile isFlag, r.2.dropWhile isFlag)
  | _ => none

/-- Whether a text can go on with the call of a method: a point and a small letter, with blanks
before either, as far as the text goes. -/
def mayCallMethod (s : List Char) : Bool :=
  match (afterBlanks s).2 with
  | [] => true
  | '.' :: rest =>
    match (afterBlanks rest).2 with
    | c :: _ => 97 ≤ c.toNat && c.toNat ≤ 122
    | [] => true
  | _ => false

/-- What has been written, nearest character first, whether it ends in a regular expression after
which a line break ends a statement, and whether a line break came after it. -/
structure Draft where
  written : List Char
  afterRegex : Bool
  afterBreak : Bool
deriving DecidableEq

namespace Draft

/-- Nothing written yet. -/
def empty : Draft := ⟨[], false, false⟩

/-- The draft with a token added. -/
def add (draft : Draft) (token : List Char) : Draft :=
  ⟨token.reverse ++ draft.written, false, false⟩

/-- Whether the text ends in the word `return`. -/
def endsInReturn (draft : Draft) : Bool :=
  match Text.after? "return".toList.reverse draft.written with
  | some rest => !rest.head?.any isNameChar
  | none => false

/-- A regular expression where one may stand, and the rest. After a closing parenthesis it is one
only if its method is called. -/
def regex? (draft : Draft) (s : List Char) : Option (Draft × List Char) :=
  (Script.regex? s).bind fun (body, rest) =>
    let last := draft.written.head?
    if last.all beforeRegex then some ({ draft.add body with afterRegex := true }, rest)
    else if draft.endsInReturn then
      let lineEnd := if draft.afterBreak then ['\n'] else []
      some ({ draft.add (lineEnd ++ body) with afterRegex := true }, rest)
    else if last = some ')' && mayCallMethod rest then some (draft.add body, rest)
    else none

/-- What is written for blanks between the last character written and the next one. -/
def separator (draft : Draft) (broken : Bool) (next : List Char) : List Char :=
  match draft.written, next with
  | last :: _, c :: _ =>
    let ends : Bool := closesStatement last && opensStatement c
    let endsRegex : Bool := draft.afterRegex && !continuesExpression c && next.take 2 ≠ ['/', '*']
    let touches : Bool := isNameChar last && isNameChar c || (last = '+' || last = '-') && c = last
    if broken then if ends || endsRegex then ['\n'] else []
    else if touches then [' '] else []
  | _, _ => []

/-- The draft after the start of a text, and the rest. -/
def step (draft : Draft) (c : Char) (cs : List Char) : Draft × List Char :=
  if isDull c then (draft.add [c], cs)
  else
    let (broken, rest) := afterBlanks (c :: cs)
    if rest.length ≤ cs.length then
      let sep := draft.separator broken rest
      (⟨sep ++ draft.written, draft.afterRegex, broken⟩, rest)
    else
      match string? (c :: cs) with
      | some (text, rest) => (draft.add text, rest)
      | none => (draft.regex? (c :: cs)).getD (draft.add [c], cs)

/-- The text written for a source; `fuel` bounds the number of steps. -/
def run : Nat → Draft → List Char → List Char
  | 0, draft, _ => draft.written.reverse
  | _, draft, [] => draft.written.reverse
  | fuel + 1, draft, c :: cs =>
    let (next, rest) := draft.step c cs
    run fuel next rest

end Draft

/-- The minified source. -/
def minify (source : String) : String :=
  String.ofList (Draft.run source.length .empty source.toList)

end Storybind.Minify.Script
