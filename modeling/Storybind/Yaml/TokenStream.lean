import Storybind.Yaml.Lexeme

/-!
The token stream of a text. A token that may turn out to be the key of a mapping is held back until
the line shows whether a colon follows; the indicators that indentation implies are put in front of
it then. A refused text still gives the tokens that were complete before the refusal.
-/

namespace Storybind.Yaml

/-- A token that may be a key: its place in the stream and in the text, and whether the indentation
demands that it is one. -/
structure KeyCandidate where
  position : Nat
  required : Bool
  index : Nat
  mark : Mark

/-- The state between two tokens. `held` are the tokens not given out yet, the first at position
`given`; `candidates` holds at most one key candidate for each depth of flow collections. -/
structure Lexer where
  cursor : Cursor
  flowDepth : Nat
  indent : Int
  indents : List Int
  keyAllowed : Bool
  candidates : List (Nat × KeyCandidate)
  held : List Token
  given : Nat
  done : Bool

namespace Lexer

def ofChars (cs : List Char) : Lexer :=
  ⟨Cursor.ofChars cs, 0, -1, [], true, [], [], 0, false⟩

def hold (kind : TokenKind) (start : Mark) (s : Lexer) : Lexer :=
  { s with held := s.held ++ [⟨kind, start⟩] }

/-- Puts a token at a position of the stream that is still held. -/
def insert (position : Nat) (kind : TokenKind) (start : Mark) (s : Lexer) : Lexer :=
  let n := position - s.given
  { s with held := s.held.take n ++ ⟨kind, start⟩ :: s.held.drop n }

def missingColon {α : Type} (s : Lexer) : Attempt α :=
  s.cursor.refuse "while scanning a simple key" "could not find expected ':'"

/-- Drops the candidates that can no longer be keys: on an earlier line, or too far back. -/
def dropStale (s : Lexer) : Attempt Lexer :=
  let stale (k : Nat × KeyCandidate) : Bool :=
    k.2.mark.line != s.cursor.line || 1024 < s.cursor.index - k.2.index
  if s.candidates.any fun k => stale k && k.2.required then s.missingColon
  else .ok { s with candidates := s.candidates.filter fun k => !stale k }

/-- Drops the candidate of the present depth. -/
def dropCandidate (s : Lexer) : Attempt Lexer :=
  match s.candidates.lookup s.flowDepth with
  | none => .ok s
  | some k =>
    if k.required then s.missingColon
    else .ok { s with candidates := s.candidates.filter fun c => c.1 != s.flowDepth }

/-- Notes that the token about to be read may be a key. -/
def noteCandidate (s : Lexer) : Attempt Lexer :=
  if !s.keyAllowed then .ok s
  else do
    let required := s.flowDepth = 0 && s.indent = s.cursor.column
    let s ← s.dropCandidate
    let k : KeyCandidate :=
      ⟨s.given + s.held.length, required, s.cursor.index, s.cursor.mark⟩
    pure { s with candidates := s.candidates ++ [(s.flowDepth, k)] }

/-- Ends the block collections that are indented further than a column. -/
def unwindFrom (column : Int) (mark : Mark) : List Int → Int → List Token → List Token × Int × List Int
  | [], indent, ends => (ends, indent, [])
  | i :: rest, indent, ends =>
    if column < indent then unwindFrom column mark rest i (ends ++ [⟨.blockEnd, mark⟩])
    else (ends, indent, i :: rest)

def unwind (column : Int) (s : Lexer) : Lexer :=
  if s.flowDepth ≠ 0 then s
  else
    let (ends, indent, indents) := unwindFrom column s.cursor.mark s.indents s.indent []
    { s with held := s.held ++ ends, indent := indent, indents := indents }

/-- Opens a block collection at a column; whether the column is further in than the present one. -/
def indentTo (column : Nat) (s : Lexer) : Bool × Lexer :=
  if s.indent < column then (true, { s with indents := s.indent :: s.indents, indent := column })
  else (false, s)

/-- Passes over blanks, comments and line ends. -/
def skipToToken : Nat → Lexer → Lexer
  | 0, s => s
  | fuel + 1, s =>
    let c := s.cursor.skipSpaces.skipComment
    if isBreak c.peek then
      skipToToken fuel
        { s with cursor := c.lineBreak.2, keyAllowed := s.keyAllowed || s.flowDepth = 0 }
    else { s with cursor := c }

/-- Reads an indicator of `n` characters. -/
def indicator (kind : TokenKind) (n : Nat) (s : Lexer) : Lexer :=
  { s.hold kind s.cursor.mark with cursor := s.cursor.advance n }

/-- Reads a token with a reader. -/
def lexeme (read : Cursor → Attempt (TokenKind × Cursor)) (s : Lexer) : Attempt Lexer := do
  let (kind, c) ← read s.cursor
  pure { s.hold kind s.cursor.mark with cursor := c }

def streamEnd (s : Lexer) : Attempt Lexer := do
  let s ← (s.unwind (-1)).dropCandidate
  let s := { s with keyAllowed := false, candidates := [], done := true }
  pure (s.hold .streamEnd s.cursor.mark)

/-- Ends all block collections before a directive or a document marker. -/
def betweenDocuments (s : Lexer) : Attempt Lexer := do
  let s ← (s.unwind (-1)).dropCandidate
  pure { s with keyAllowed := false }

def openFlow (kind : TokenKind) (s : Lexer) : Attempt Lexer := do
  let s ← s.noteCandidate
  pure (indicator kind 1 { s with flowDepth := s.flowDepth + 1, keyAllowed := true })

/-- Closes a flow collection. A closing bracket outside of all of them leaves depth zero. -/
def closeFlow (kind : TokenKind) (s : Lexer) : Attempt Lexer := do
  let s ← s.dropCandidate
  pure (indicator kind 1 { s with flowDepth := s.flowDepth - 1, keyAllowed := false })

def flowEntry (s : Lexer) : Attempt Lexer := do
  let s ← { s with keyAllowed := true }.dropCandidate
  pure (indicator .flowEntry 1 s)

/-- Opens a block collection for an entry at the present column if it is further in. -/
def openBlock (kind : TokenKind) (s : Lexer) : Lexer :=
  let (opened, s) := s.indentTo s.cursor.column
  if opened then s.hold kind s.cursor.mark else s

def blockEntry (s : Lexer) : Attempt Lexer := do
  if s.flowDepth = 0 && !s.keyAllowed then
    s.cursor.refuseHere "sequence entries are not allowed here"
  else
    let s := if s.flowDepth = 0 then s.openBlock .blockSequenceStart else s
    let s ← { s with keyAllowed := true }.dropCandidate
    pure (indicator .blockEntry 1 s)

def complexKey (s : Lexer) : Attempt Lexer := do
  if s.flowDepth = 0 && !s.keyAllowed then
    s.cursor.refuseHere "mapping keys are not allowed here"
  else
    let s := if s.flowDepth = 0 then s.openBlock .blockMappingStart else s
    let s ← { s with keyAllowed := s.flowDepth = 0 }.dropCandidate
    pure (indicator .key 1 s)

def value (s : Lexer) : Attempt Lexer := do
  match s.candidates.lookup s.flowDepth with
  | some k =>
    let s := { s with candidates := s.candidates.filter fun c => c.1 != s.flowDepth }
    let s := s.insert k.position .key k.mark
    let s :=
      if s.flowDepth = 0 then
        let (opened, s) := s.indentTo k.mark.column
        if opened then s.insert k.position .blockMappingStart k.mark else s
      else s
    pure (indicator .value 1 { s with keyAllowed := false })
  | none =>
    if s.flowDepth = 0 && !s.keyAllowed then
      s.cursor.refuseHere "mapping values are not allowed here"
    else
      let s := if s.flowDepth = 0 then s.openBlock .blockMappingStart else s
      let s ← { s with keyAllowed := s.flowDepth = 0 }.dropCandidate
      pure (indicator .value 1 s)

/-- Reads a token that may be a key. -/
def keyLexeme (read : Cursor → Attempt (TokenKind × Cursor)) (s : Lexer) : Attempt Lexer := do
  let s ← s.noteCandidate
  lexeme read { s with keyAllowed := false }

def plain (s : Lexer) : Attempt Lexer := do
  let s ← s.noteCandidate
  let (kind, ended, c) := plainScalar (s.flowDepth ≠ 0) s.indent s.cursor
  pure { s.hold kind s.cursor.mark with cursor := c, keyAllowed := ended }

def block (fold : Bool) (s : Lexer) : Attempt Lexer := do
  let s ← { s with keyAllowed := true }.dropCandidate
  lexeme (blockScalar fold s.indent) s

/-- Whether a plain scalar may start here. -/
def atPlain (s : Lexer) : Bool :=
  let x := s.cursor.peek
  let indicators := "-?:,[]\x7b\x7d#&*!|>'\"%@`".toList
  (!isWhiteOrEnd x && !indicators.contains x) ||
    (!isWhiteOrEnd (s.cursor.peekAt 1) &&
      (x = '-' || (s.flowDepth = 0 && (x = '?' || x = ':'))))

/-- Reads the next token, with the ends of collections before it. -/
def fetch (s : Lexer) : Attempt Lexer := do
  let c := s.cursor
  let c := if c.index = 0 && c.peek.toNat = 0xfeff then c.next else c
  let s := skipToToken c.bound { s with cursor := c }
  let s ← s.dropStale
  let s := s.unwind s.cursor.column
  let c := s.cursor
  let x := c.peek
  let alone := isWhiteOrEnd (c.peekAt 1)
  let flow := s.flowDepth ≠ 0
  if x = nul then s.streamEnd
  else if x = '%' && c.column = 0 then
    let s ← s.betweenDocuments
    lexeme directive s
  else if x = '-' && c.column = 0 && c.atSeparator then
    (s.betweenDocuments).map (indicator .documentStart 3)
  else if x = '.' && c.column = 0 && c.atSeparator then
    (s.betweenDocuments).map (indicator .documentEnd 3)
  else if x = '[' then s.openFlow .flowSequenceStart
  else if x = '\x7b' then s.openFlow .flowMappingStart
  else if x = ']' then s.closeFlow .flowSequenceEnd
  else if x = '\x7d' then s.closeFlow .flowMappingEnd
  else if x = ',' then s.flowEntry
  else if x = '-' && alone then s.blockEntry
  else if x = '?' && (flow || alone) then s.complexKey
  else if x = ':' && (flow || alone) then s.value
  else if x = '*' then s.keyLexeme fun c => (anchorName c).map fun r => (.alias r.1, r.2)
  else if x = '&' then s.keyLexeme fun c => (anchorName c).map fun r => (.anchor r.1, r.2)
  else if x = '!' then s.keyLexeme tag
  else if x = '|' && !flow then s.block false
  else if x = '>' && !flow then s.block true
  else if x = '\x27' then s.keyLexeme (quotedScalar false)
  else if x = '\x22' then s.keyLexeme (quotedScalar true)
  else if s.atPlain then s.plain
  else
    c.refuse "while scanning for the next token"
      ("found character " ++ c.shown ++ " that cannot start any token")

/-- Reads until the first held token is complete. -/
def settle : Nat → Lexer → Attempt Lexer
  | 0, s => .ok s
  | fuel + 1, s =>
    if s.done then .ok s
    else if s.held.isEmpty then (s.fetch).bind (settle fuel)
    else do
      let s ← s.dropStale
      if s.candidates.any fun k => k.2.position = s.given then
        let s ← s.fetch
        settle fuel s
      else pure s

/-- Gives out the tokens one after another, and the refusal that ends them if one does. -/
def run : Nat → Lexer → List Token × Option LoadError
  | 0, _ => ([], none)
  | fuel + 1, s =>
    match settle (s.cursor.bound + 1) s with
    | .error e => ([], some e)
    | .ok s =>
      match s.held with
      | [] => ([], none)
      | t :: held =>
        let (ts, e) := run fuel { s with held := held, given := s.given + 1 }
        (t :: ts, e)

end Lexer

/-- The tokens of a text, and the refusal that ends them if one does. -/
def tokens (cs : List Char) : List Token × Option LoadError :=
  Lexer.run (4 * cs.length + 16) (Lexer.ofChars cs)

end Storybind.Yaml
