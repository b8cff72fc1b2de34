import Storybind.Number.Reading
import Storybind.Yaml.Cursor
import Storybind.Yaml.Token

/-!
Reading one token from the text: scalars in their five styles, anchors and aliases, tags,
directives. Each reader takes the place where the token starts and gives it with the place after it.
-/

namespace Storybind.Yaml

/-- Reading that may be refused. -/
abbrev Attempt := Except LoadError

/-- Reads lines that hold nothing but spaces and breaks: the breaks, and the greatest
indentation. -/
def blockIndentation : Nat → Nat → Cursor → List Char × Nat × Cursor
  | 0, most, c => ([], most, c)
  | fuel + 1, most, c =>
    let x := c.peek
    if x = ' ' then
      let c := c.next
      blockIndentation fuel (max most c.column) c
    else if isBreak x then
      let (b, c) := c.lineBreak
      let (bs, most, c) := blockIndentation fuel most c
      (b ++ bs, most, c)
    else ([], most, c)

/-- Reads spaces up to a column. -/
def spacesTo (column : Nat) (c : Cursor) : Cursor :=
  c.advance (min (column - c.column) (c.run (· = ' ')).length)

/-- Reads empty lines before text at a column: the breaks. -/
def blockBreaks (column : Nat) : Nat → Cursor → List Char × Cursor
  | 0, c => ([], c)
  | fuel + 1, c =>
    let c := spacesTo column c
    if isBreak c.peek then
      let (b, c) := c.lineBreak
      let (bs, c) := blockBreaks column fuel c
      (b ++ bs, c)
    else ([], c)

/-- The lines of a block scalar at a column, after `breaks` empty ones: the text, and what stands
after the last line. -/
def blockLines (column : Nat) (fold : Bool) :
    Nat → List Char → List Char → Cursor → List Char × List Char × List Char × Cursor
  | 0, breaks, lastBreak, c => ([], lastBreak, breaks, c)
  | fuel + 1, breaks, lastBreak, c =>
    if c.column = column && c.peek ≠ nul then
      let solid := !(c.peek = ' ' || c.peek = '\t')
      let line := c.run fun x => !isBreakOrEnd x
      let c := c.skipLine
      let (lineEnd, c) := c.lineBreak
      let (next, c) := blockBreaks column c.bound c
      if c.column = column && c.peek ≠ nul then
        let glue :=
          if fold && lineEnd = ['\n'] && solid && !(c.peek = ' ' || c.peek = '\t') then
            if next.isEmpty then [' '] else []
          else lineEnd
        let (text, e, bs, c) := blockLines column fold fuel next lineEnd c
        (breaks ++ line ++ glue ++ text, e, bs, c)
      else (breaks ++ line, lineEnd, next, c)
    else ([], lastBreak, breaks, c)

/-- The chomping and the indentation that the header of a block scalar asks for. -/
def blockHeader (c : Cursor) : Attempt ((Option Bool × Option Nat) × Cursor) := do
  let context := "while scanning a block scalar"
  let chomp (c : Cursor) : Option Bool × Cursor :=
    if c.peek = '+' then (some true, c.next)
    else if c.peek = '-' then (some false, c.next)
    else (none, c)
  let digit (c : Cursor) : Attempt (Option Nat × Cursor) :=
    if Text.isAsciiDigit c.peek then
      if c.peek = '0' then
        c.refuse context "expected indentation indicator in the range 1-9, but found 0"
      else .ok (some (c.peek.toNat - 48), c.next)
    else .ok (none, c)
  let (first, c) := chomp c
  let (increment, c) ← digit c
  let (second, c) := if first.isNone && increment.isSome then chomp c else (none, c)
  if !isSpaceOrEnd c.peek then
    c.refuse context ("expected chomping or indentation indicators, but found " ++ c.shown)
  else pure ((first <|> second, increment), c)

/-- The rest of a line that may hold a comment only. -/
def ignoredLine (context : String) (c : Cursor) : Except LoadError Cursor :=
  let c := c.skipSpaces.skipComment
  if !isBreakOrEnd c.peek then
    c.refuse context ("expected a comment or a line break, but found " ++ c.shown)
  else .ok c.lineBreak.2

/-- Reads a block scalar inside a collection of an indentation. -/
def blockScalar (fold : Bool) (indent : Int) (c : Cursor) : Attempt (TokenKind × Cursor) := do
  let ((chomping, increment), c) ← blockHeader c.next
  let c ← ignoredLine "while scanning a block scalar" c
  let least := max (indent + 1) 1 |>.toNat
  let fuel := c.bound
  let (column, breaks, c) := match increment with
    | none =>
      let (breaks, most, c) := blockIndentation fuel 0 c
      (max least most, breaks, c)
    | some n =>
      let column := least + n - 1
      let (breaks, c) := blockBreaks column fuel c
      (column, breaks, c)
  let (text, lastBreak, breaks, c) := blockLines column fold fuel breaks [] c
  let tail := (if chomping = some false then [] else lastBreak) ++
    (if chomping = some true then breaks else [])
  pure (.scalar (String.ofList (text ++ tail)) (if fold then .folded else .literal), c)

/-- Line breaks inside quotes, with the blanks around them. -/
def quotedBreaks : Nat → Cursor → Attempt (List Char × Cursor)
  | 0, c => .ok ([], c)
  | fuel + 1, c =>
    if c.atSeparator then
      c.refuse "while scanning a quoted scalar" "found unexpected document separator"
    else
      let c := c.skipRun fun x => x = ' ' || x = '\t'
      if isBreak c.peek then do
        let (b, c) := c.lineBreak
        let (bs, c) ← quotedBreaks fuel c
        pure (b ++ bs, c)
      else .ok ([], c)

/-- Blanks and line breaks inside quotes, folded. -/
def quotedSpaces (c : Cursor) : Attempt (List Char × Cursor) := do
  let blanks := c.run fun x => x = ' ' || x = '\t'
  let c := c.advance blanks.length
  if c.peek = nul then
    c.refuse "while scanning a quoted scalar" "found unexpected end of stream"
  else if isBreak c.peek then
    let (b, c) := c.lineBreak
    let (bs, c) ← quotedBreaks c.bound c
    let first := if b ≠ ['\n'] then b else if bs.isEmpty then [' '] else []
    pure (first ++ bs, c)
  else pure (blanks, c)

/-- The character of a one-letter escape. -/
def escapeLetter? (c : Char) : Option Char :=
  let table : List (Char × Nat) := [('0', 0), ('a', 7), ('b', 8), ('t', 9), ('\t', 9), ('n', 10),
    ('v', 11), ('f', 12), ('r', 13), ('e', 27), (' ', 32), ('\x22', 34), ('\\', 92), ('/', 47),
    ('N', 0x85), ('_', 0xa0), ('L', 0x2028), ('P', 0x2029)]
  (table.lookup c).map Char.ofNat

/-- The number of hexadecimal digits after an escape letter. -/
def escapeWidth? (c : Char) : Option Nat :=
  if c = 'x' then some 2 else if c = 'u' then some 4 else if c = 'U' then some 8 else none

/-- Reads an escape after its backslash. -/
def quotedEscape (c : Cursor) : Attempt (List Char × Cursor) := do
  let context := "while scanning a double-quoted scalar"
  let x := c.peek
  match escapeLetter? x with
  | some y => pure ([y], c.next)
  | none =>
    match escapeWidth? x with
    | some width =>
      let c := c.next
      let digits := (List.range width).map c.peekAt
      match digits.find? fun d => (Text.hexValue? d).isNone with
      | some d =>
        c.refuse context ("expected escape sequence of " ++ toString width ++
          " hexadecimal numbers, but found " ++ Text.quoted (String.singleton d))
      | none =>
        let n := digitsValue 16 (digits.filterMap Text.hexValue?)
        if 0x7fffffff < n then .error (.scalar .codePointSize)
        else if 0x10ffff < n then .error (.scalar .codePointRange)
        else
          let code := if 0xd800 ≤ n && n < 0xe000 then 0xfffd else n
          pure ([Char.ofNat code], c.advance width)
    | none =>
      if isBreak x then
        let c := c.lineBreak.2
        quotedBreaks c.bound c
      else c.refuse context ("found unknown escape character " ++ c.shown)

/-- What stands between blanks inside quotes. -/
def quotedText (double : Bool) : Nat → Cursor → Attempt (List Char × Cursor)
  | 0, c => .ok ([], c)
  | fuel + 1, c => do
    let plain := c.run fun x =>
      !(x = '\x27' || x = '\x22' || x = '\\' || x = '\t' || isSpaceOrEnd x)
    let c := c.advance plain.length
    let x := c.peek
    if !double && x = '\x27' && c.peekAt 1 = '\x27' then
      let (more, c) ← quotedText double fuel (c.advance 2)
      pure (plain ++ '\x27' :: more, c)
    else if (double && x = '\x27') || (!double && (x = '\x22' || x = '\\')) then
      let (more, c) ← quotedText double fuel c.next
      pure (plain ++ x :: more, c)
    else if double && x = '\\' then
      let (e, c) ← quotedEscape c.next
      let (more, c) ← quotedText double fuel c
      pure (plain ++ e ++ more, c)
    else pure (plain, c)

/-- Text and blanks inside quotes, up to the closing one. -/
def quotedParts (double : Bool) : Nat → Cursor → Attempt (List Char × Cursor)
  | 0, c => .ok ([], c)
  | fuel + 1, c => do
    let (text, c) ← quotedText double c.bound c
    if c.peek = (if double then '\x22' else '\x27') then pure (text, c.next)
    else
      let (blanks, c) ← quotedSpaces c
      let (more, c) ← quotedParts double fuel c
      pure (text ++ blanks ++ more, c)

/-- Reads a quoted scalar. -/
def quotedScalar (double : Bool) (c : Cursor) : Attempt (TokenKind × Cursor) := do
  let (text, c) ← quotedParts double c.bound c.next
  pure (.scalar (String.ofList text) (if double then .double else .single), c)

/-- The number of characters up to where a plain scalar is interrupted. -/
def plainRun (flow : Bool) : List Char → Nat
  | [] => 0
  | x :: rest =>
    let after := rest.headD nul
    let flowMark (y : Char) : Bool := y = ',' || y = '[' || y = ']' || y = '\x7b' || y = '\x7d'
    if isWhiteOrEnd x || (x = ':' && (isWhiteOrEnd after || (flow && flowMark after))) ||
        (flow && (flowMark x || x = '?')) then 0
    else plainRun flow rest + 1

/-- Line breaks inside a plain scalar, with the spaces around them; `none` at a document marker. -/
def plainBreaks : Nat → Cursor → Option (List Char) × Cursor
  | 0, c => (some [], c)
  | fuel + 1, c =>
    if c.peek = ' ' then plainBreaks fuel c.next
    else if isBreak c.peek then
      let (b, c) := c.lineBreak
      if c.atSeparator then (none, c)
      else
        let (bs, c) := plainBreaks fuel c
        (bs.map (b ++ ·), c)
    else (some [], c)

/-- Spaces and line breaks after a piece of a plain scalar, folded; with it whether a line ended. -/
def plainSpaces (c : Cursor) : List Char × Bool × Cursor :=
  let blanks := c.run (· = ' ')
  let c := c.advance blanks.length
  if isBreak c.peek then
    let (b, c) := c.lineBreak
    if c.atSeparator then ([], true, c)
    else
      match plainBreaks c.bound c with
      | (none, c) => ([], true, c)
      | (some bs, c) =>
        ((if b ≠ ['\n'] then b else if bs.isEmpty then [' '] else []) ++ bs, true, c)
  else (blanks, false, c)

/-- The pieces of a plain scalar, after `spaces`; with it whether it ended at a line end. -/
def plainPieces (flow : Bool) (indent : Int) :
    Nat → List Char → Bool → Cursor → List Char × Bool × Cursor
  | 0, _, ended, c => ([], ended, c)
  | fuel + 1, spaces, ended, c =>
    if c.peek = '#' then ([], ended, c)
    else
      let n := plainRun flow c.rest
      if n = 0 then ([], ended, c)
      else
        let piece := c.rest.take n
        let (next, ended, c) := plainSpaces (c.advance n)
        if next.isEmpty || c.peek = '#' || (!flow && (c.column : Int) < indent) then
          (spaces ++ piece, ended, c)
        else
          let (more, ended, c) := plainPieces flow indent fuel next ended c
          (spaces ++ piece ++ more, ended, c)

/-- Reads a plain scalar; with it whether it ended at a line end. -/
def plainScalar (flow : Bool) (indent : Int) (c : Cursor) : TokenKind × Bool × Cursor :=
  let (text, ended, c) := plainPieces flow (indent + 1) c.bound [] false c
  (.scalar (String.ofList text) .plain, ended, c)

/-- Reads the name of an anchor or an alias. -/
def anchorName (c : Cursor) : Attempt (String × Cursor) :=
  let context := if c.peek = '*' then "while scanning an alias" else "while scanning an anchor"
  let c := c.next
  let name := c.run isNameChar
  let c := c.advance name.length
  let fits := isWhiteOrEnd c.peek || "?:,]\x7d%@`".toList.contains c.peek
  if name.isEmpty || !fits then
    c.refuse context ("expected alphabetic or numeric character, but found " ++ c.shown)
  else .ok (String.ofList name, c)

/-- Reads percent escapes of UTF-8 bytes. -/
def uriEscapes (context : String) : Nat → Cursor → Attempt (Bytes × Cursor)
  | 0, c => .ok ([], c)
  | fuel + 1, c =>
    if c.peek ≠ '%' then .ok ([], c)
    else
      let c := c.next
      match Text.hexValue? c.peek, Text.hexValue? (c.peekAt 1) with
      | some a, some b => do
        let (bs, c) ← uriEscapes context fuel (c.advance 2)
        pure ((a * 16 + b).toUInt8 :: bs, c)
      | _, _ =>
        c.refuse context
          ("expected URI escape sequence of 2 hexadecimal numbers, but found " ++ c.shown)

/-- A character of a tag. -/
def isUriChar (c : Char) : Bool := Text.isAsciiAlnum c || "-;/?:@&=+$,_.!~*'()[]".toList.contains c

/-- The characters of a tag, escapes undone. -/
def uriPieces (context : String) : Nat → Cursor → Attempt (List Char × Cursor)
  | 0, c => .ok ([], c)
  | fuel + 1, c => do
    let piece := c.run isUriChar
    let c := c.advance piece.length
    if c.peek ≠ '%' then pure (piece, c)
    else
      let (bytes, after) ← uriEscapes context c.bound c
      match Text.decode bytes with
      | .error e => c.refuse context e.message
      | .ok text =>
        let (more, c) ← uriPieces context fuel after
        pure (piece ++ text.toList ++ more, c)

/-- Reads the characters of a tag; at least one. -/
def tagUri (name : String) (c : Cursor) : Attempt (String × Cursor) := do
  let (text, stop) ← uriPieces ("while scanning a " ++ name) c.bound c
  if stop.index = c.index then
    c.refuse ("while parsing a " ++ name) ("expected URI, but found " ++ c.shown)
  else pure (String.ofList text, stop)

/-- Reads a tag handle: one mark, or a name between two. -/
def tagHandle (name : String) (c : Cursor) : Attempt (String × Cursor) :=
  let context := "while scanning a " ++ name
  if c.peek ≠ '!' then c.refuse context ("expected '!', but found " ++ c.shown)
  else
    let c := c.next
    if c.peek = ' ' then .ok ("!", c)
    else
      let letters := c.run isNameChar
      let c := c.advance letters.length
      if c.peek ≠ '!' then c.refuse context ("expected '!', but found " ++ c.shown)
      else .ok ("!" ++ String.ofList letters ++ "!", c.next)

/-- Reads a tag: verbatim, the mark alone, or a suffix with or without a handle. -/
def tag (c : Cursor) : Attempt (TokenKind × Cursor) := do
  let after := c.peekAt 1
  let ((handle, suffix), c) ← (
    if after = '<' then do
      let (suffix, c) ← tagUri "tag" (c.advance 2)
      if c.peek ≠ '>' then c.refuse "while parsing a tag" ("expected '>', but found " ++ c.shown)
      else pure ((none, suffix), c.next)
    else if isWhiteOrEnd after then pure ((none, "!"), c.next)
    else do
      let ahead := (c.rest.drop 1).takeWhile fun x => !isSpaceOrEnd x
      let (handle, c) ← if ahead.contains '!' then tagHandle "tag" c else pure ("!", c.next)
      let (suffix, c) ← tagUri "tag" c
      pure ((some handle, suffix), c) : Attempt ((Option String × String) × Cursor))
  if !isSpaceOrEnd c.peek then
    c.refuse "while scanning a tag" ("expected ' ', but found " ++ c.shown)
  else pure (.tag handle suffix, c)

/-- Reads a number of a version. -/
def versionNumber (c : Cursor) : Attempt (Nat × Cursor) :=
  let ds := c.run Text.isAsciiDigit
  if ds.isEmpty then
    c.refuse "while scanning a directive" ("expected a digit, but found " ++ c.shown)
  else .ok (digitsValue 10 (ds.map fun d => d.toNat - 48), c.advance ds.length)

/-- Reads a directive. -/
def directive (c : Cursor) : Attempt (TokenKind × Cursor) := do
  let context := "while scanning a directive"
  let c := c.next
  let name := c.run isNameChar
  let c := c.advance name.length
  if name.isEmpty || !isSpaceOrEnd c.peek then
    c.refuse context ("expected alphabetic or numeric character, but found " ++ c.shown)
  else
    let (d, c) ← (
      if name = "YAML".toList then do
        let (major, c) ← versionNumber c.skipSpaces
        if c.peek ≠ '.' then
          c.refuse context ("expected a digit or '.', but found " ++ c.shown)
        else
          let (minor, c) ← versionNumber c.next
          if !isSpaceOrEnd c.peek then
            c.refuse context ("expected a digit or ' ', but found " ++ c.shown)
          else pure (.version major minor, c)
      else if name = "TAG".toList then do
        let (handle, c) ← tagHandle "directive" c.skipSpaces
        if c.peek ≠ ' ' then c.refuse context ("expected ' ', but found " ++ c.shown)
        else
          let (expansion, c) ← tagUri "directive" c.skipSpaces
          if !isSpaceOrEnd c.peek then c.refuse context ("expected ' ', but found " ++ c.shown)
          else pure (.tag handle expansion, c)
      else pure (.other (String.ofList name), c.skipLine) : Attempt (Directive × Cursor))
    let c ← ignoredLine context c
    pure (.directive d, c)

end Storybind.Yaml
