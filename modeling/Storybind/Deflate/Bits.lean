import Storybind.Text.Utf8

/-!
Bits of a byte string, read from the least significant one of every byte on. A number of several bits
has its least significant bit first.
-/

namespace Storybind.Deflate

/-- What is left to read: the bits of a byte that is begun, and the bytes after it. -/
structure Bits where
  begun : List Bool
  rest : Bytes
deriving DecidableEq, Repr

namespace Bits

def ofBytes (b : Bytes) : Bits := ⟨[], b⟩

/-- The bits of a byte. -/
def ofByte (b : UInt8) : List Bool := (List.range 8).map fun i => b.toNat.testBit i

/-- The number of bits left. -/
def size (b : Bits) : Nat := b.begun.length + 8 * b.rest.length

/-- The next bit, if there is one. -/
def next? (b : Bits) : Option (Bool × Bits) :=
  match b.begun with
  | x :: begun => some (x, ⟨begun, b.rest⟩)
  | [] =>
    match b.rest with
    | [] => none
    | byte :: rest =>
      match ofByte byte with
      | [] => none
      | x :: begun => some (x, ⟨begun, rest⟩)

/-- The number of the next `n` bits, if there are as many. -/
def number? : Nat → Bits → Option (Nat × Bits)
  | 0, b => some (0, b)
  | n + 1, b =>
    match b.next? with
    | none => none
    | some (x, b) => (number? n b).map fun (v, b) => (x.toNat + 2 * v, b)

/-- The bytes after the one that is begun. -/
def aligned (b : Bits) : Bytes := b.rest

end Bits
end Storybind.Deflate
