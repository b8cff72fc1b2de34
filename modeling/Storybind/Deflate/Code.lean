import Storybind.Deflate.Bits

/-!
Codes of bits for symbols, made from the lengths of the words alone: shorter words come first, words
of one length follow each other in the order of their symbols. No word begins another one.
-/

namespace Storybind.Deflate

/-- A code: how many words there are of every length from one on, and the symbols in the order of
their words. -/
structure Code where
  counts : List Nat
  symbols : Array Nat
deriving Repr

namespace Code

/-- The longest word. -/
def maxLength : Nat := 15

/-- The symbols with words of a length, in order. -/
def symbolsOf (lengths : List Nat) (length : Nat) : List Nat :=
  lengths.zipIdx.filterMap fun (l, symbol) => if l = length then some symbol else none

/-- The code whose words have these lengths; a symbol of length zero has none. There is at least one
bit to read even if there are no words. -/
def ofLengths (lengths : List Nat) : Code :=
  let longest := max 1 (lengths.foldl max 0)
  let groups := (List.range longest).map fun i => symbolsOf lengths (i + 1)
  ⟨groups.map List.length, groups.flatten.toArray⟩

/-- How many words of the greatest length are free where `free` words of the last length were;
nothing if there are more words than fit. -/
def freeAfter? (free : Nat) : List Nat → Option Nat
  | [] => some free
  | n :: more => if 2 * free < n then none else freeAfter? (2 * free - n) more

/-- Whether a code has no words. -/
def isEmpty (c : Code) : Bool := c.symbols.isEmpty

/-- Whether every sequence of bits begins with a word. -/
def isComplete (c : Code) : Bool := freeAfter? 1 c.counts = some 0

/-- Whether a code can be read with: it is complete, or has no words, or the one word of a single
bit. -/
def isUsable (c : Code) : Bool := c.isEmpty || c.isComplete || c.counts = [1]

/-- Reads on after bits with the number `word`; `first` is the least word of the last length,
doubled, and `index` the number of shorter words. -/
def read (symbols : Array Nat) : List Nat → Nat → Nat → Nat → Bits → Option (Option Nat × Bits)
  | [], _, _, _, b => some (none, b)
  | n :: more, word, first, index, b =>
    match b.next? with
    | none => none
    | some (x, b) =>
      let word := 2 * word + x.toNat
      if word < first + n then some (symbols[index + (word - first)]?, b)
      else read symbols more word (2 * (first + n)) (index + n) b

/-- The symbol of the next word, nothing for bits that are no word; `none` at the end of the bits. -/
def next? (c : Code) (b : Bits) : Option (Option Nat × Bits) := read c.symbols c.counts 0 0 0 b

end Code
end Storybind.Deflate
