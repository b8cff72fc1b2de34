import Storybind.Yaml.Refusal

/-!
A place in a YAML text with what is left to read. Past the end every character reads as NUL, which
no text holds. A line ends at a line feed, a carriage return, or one of the Unicode line ends.
-/

namespace Storybind.Yaml

/-- The unread text and its place in a text of a size. -/
structure Cursor where
  rest : List Char
  size : Nat
  index : Nat
  line : Nat
  column : Nat
  length_le : rest.length ≤ size

/-- The end of a text. -/
abbrev nul : Char := '\x00'

/-- A character that ends a line. -/
def isBreak (c : Char) : Bool :=
  c = '\r' || c = '\n' || c.toNat = 0x85 || c.toNat = 0x2028 || c.toNat = 0x2029

/-- A character that ends a line, or the end of the text. -/
def isBreakOrEnd (c : Char) : Bool := c = nul || isBreak c

/-- A space, a line end or the end of the text. -/
def isSpaceOrEnd (c : Char) : Bool := c = ' ' || isBreakOrEnd c

/-- A space, a tab, a line end or the end of the text. -/
def isWhiteOrEnd (c : Char) : Bool := c = '\t' || isSpaceOrEnd c

/-- A character of an anchor or of a tag handle. -/
def isNameChar (c : Char) : Bool := Text.isAsciiAlnum c || c = '-' || c = '_'

namespace Cursor

/-- The start of a text. -/
def ofChars (cs : List Char) : Cursor := ⟨cs, cs.length, 0, 0, 0, Nat.le_refl _⟩

/-- More than the number of unread characters, so that no run of readings takes more steps. -/
def bound (c : Cursor) : Nat := c.size + 1

theorem length_lt_bound (c : Cursor) : c.rest.length < c.bound := Nat.lt_succ_of_le c.length_le

def mark (c : Cursor) : Mark := ⟨c.line, c.column⟩

/-- The character `n` places ahead. -/
def peekAt (n : Nat) (c : Cursor) : Char := c.rest.getD n nul

/-- The next character. -/
def peek (c : Cursor) : Char := c.peekAt 0

/-- Reads one character. -/
def next (c : Cursor) : Cursor :=
  match c with
  | ⟨[], size, index, line, column, h⟩ => ⟨[], size, index + 1, line, column, h⟩
  | ⟨x :: rest, size, index, line, column, h⟩ =>
    let inside : rest.length ≤ size := Nat.le_of_succ_le h
    if x = '\n' || x.toNat = 0x85 || x.toNat = 0x2028 || x.toNat = 0x2029 ||
        (x = '\r' && rest.head? != some '\n') then
      ⟨rest, size, index + 1, line + 1, 0, inside⟩
    else if x.toNat = 0xfeff then ⟨rest, size, index + 1, line, column, inside⟩
    else ⟨rest, size, index + 1, line, column + 1, inside⟩

/-- Reads `n` characters. -/
def advance : Nat → Cursor → Cursor
  | 0, c => c
  | n + 1, c => advance n c.next

/-- The longest run of a class ahead; the end of the text is in no run. -/
def run (p : Char → Bool) (c : Cursor) : List Char := c.rest.takeWhile p

/-- Reads the longest run of a class. -/
def skipRun (p : Char → Bool) (c : Cursor) : Cursor := c.advance (c.run p).length

/-- Reads spaces. -/
def skipSpaces (c : Cursor) : Cursor := c.skipRun (· = ' ')

/-- Reads up to the end of the line. -/
def skipLine (c : Cursor) : Cursor := c.skipRun fun x => !isBreakOrEnd x

/-- Reads a comment if one starts here. -/
def skipComment (c : Cursor) : Cursor := if c.peek = '#' then c.skipLine else c

/-- Reads a line end, giving the character it stands for; nothing if there is none. -/
def lineBreak (c : Cursor) : List Char × Cursor :=
  let x := c.peek
  if x = '\r' && c.peekAt 1 = '\n' then (['\n'], c.advance 2)
  else if x = '\r' || x = '\n' || x.toNat = 0x85 then (['\n'], c.next)
  else if x.toNat = 0x2028 || x.toNat = 0x2029 then ([x], c.next)
  else ([], c)

/-- Whether three characters ahead are a document marker on their own. -/
def atSeparator (c : Cursor) : Bool :=
  let three := c.rest.take 3
  (three = ['-', '-', '-'] || three = ['.', '.', '.']) && isWhiteOrEnd (c.peekAt 3)

/-- A refusal of the tokens at this place. -/
def refuse {α : Type} (c : Cursor) (context : String) (problem : String) : Except LoadError α :=
  .error (.refused ⟨.tokens, some context, problem, some c.mark⟩)

/-- A refusal of the tokens at this place, of nothing in particular. -/
def refuseHere {α : Type} (c : Cursor) (problem : String) : Except LoadError α :=
  .error (.refused ⟨.tokens, none, problem, some c.mark⟩)

/-- The next character as messages show it. -/
def shown (c : Cursor) : String := Text.quoted (String.singleton c.peek)

end Cursor
end Storybind.Yaml
