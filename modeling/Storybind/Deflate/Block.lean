import Storybind.Deflate.Code

/-!
Compressed data: blocks of bytes that are stored as they are, or written in a code for single bytes
and for copies of what came before. Data that ends too early gives what can be read of it; all else
that is wrong is a fault.
-/

namespace Storybind.Deflate

/-- What is wrong with data. -/
inductive Fault where
  | header
  | method
  | flags
  | headerSum
  | dataSum
  | dataLength
  | blockType
  | storedLength
  | tooManySymbols
  | lengthsCode
  | repeated
  | noEnd
  | literalCode
  | distanceCode
  | literal
  | distance
  | tooFar
  | window
  | dictionary
deriving DecidableEq, Repr

def Fault.message : Fault → String
  | .header => "incorrect header check"
  | .method => "unknown compression method"
  | .flags => "unknown header flags set"
  | .headerSum => "header crc mismatch"
  | .dataSum => "incorrect data check"
  | .dataLength => "incorrect length check"
  | .blockType => "invalid block type"
  | .storedLength => "invalid stored block lengths"
  | .tooManySymbols => "too many length or distance symbols"
  | .lengthsCode => "invalid code lengths set"
  | .repeated => "invalid bit length repeat"
  | .noEnd => "invalid code -- missing end-of-block"
  | .literalCode => "invalid literal/lengths set"
  | .distanceCode => "invalid distances set"
  | .literal => "invalid literal/length code"
  | .distance => "invalid distance code"
  | .tooFar => "invalid distance too far back"
  | .window => "invalid window size"
  | .dictionary => "a dictionary is needed"

/-- The bytes so far, and what is left to read; nothing if the data ends too early. -/
abbrev Progress := Array UInt8 × Option Bits

/-! ### Symbols -/

/-- The shortest length and the number of extra bits of the symbols from 257 on. -/
def lengthSteps : Array (Nat × Nat) := #[
  (3, 0), (4, 0), (5, 0), (6, 0), (7, 0), (8, 0), (9, 0), (10, 0), (11, 1), (13, 1), (15, 1),
  (17, 1), (19, 2), (23, 2), (27, 2), (31, 2), (35, 3), (43, 3), (51, 3), (59, 3), (67, 4), (83, 4),
  (99, 4), (115, 4), (131, 5), (163, 5), (195, 5), (227, 5), (258, 0)]

/-- The shortest distance and the number of extra bits of every symbol. -/
def distanceSteps : Array (Nat × Nat) := #[
  (1, 0), (2, 0), (3, 0), (4, 0), (5, 1), (7, 1), (9, 2), (13, 2), (17, 3), (25, 3), (33, 4),
  (49, 4), (65, 5), (97, 5), (129, 6), (193, 6), (257, 7), (385, 7), (513, 8), (769, 8), (1025, 9),
  (1537, 9), (2049, 10), (3073, 10), (4097, 11), (6145, 11), (8193, 12), (12289, 12), (16385, 13),
  (24577, 13)]

/-- Copies bytes from a distance before the end; the copy may run into itself. -/
def copy (distance : Nat) : Nat → Array UInt8 → Array UInt8
  | 0, out => out
  | n + 1, out => copy distance n (out.push (out[out.size - distance]?.getD 0))

/-- A step and its extra bits as a number. -/
def stepped? (step : Nat × Nat) (b : Bits) : Option (Nat × Bits) :=
  (b.number? step.2).map fun (v, b) => (step.1 + v, b)

/-- Reads the distance of a copy. -/
def distanceOf (distances : Code) (b : Bits) : Except Fault (Option (Nat × Bits)) :=
  match distances.next? b with
  | none => .ok none
  | some (symbol, b) =>
    match symbol.bind (distanceSteps[·]?) with
    | none => .error .distance
    | some step => .ok (stepped? step b)

/-- Reads symbols up to the end of a block. Every symbol takes a bit at least, so `left` is enough if
it exceeds the number of bits. -/
def symbols (literals distances : Code) : Nat → Array UInt8 → Bits → Except Fault Progress
  | 0, out, _ => .ok (out, none)
  | left + 1, out, b =>
    match literals.next? b with
    | none => .ok (out, none)
    | some (none, _) => .error .literal
    | some (some symbol, b) =>
      if symbol < 256 then symbols literals distances left (out.push symbol.toUInt8) b
      else if symbol = 256 then .ok (out, some b)
      else
        match lengthSteps[symbol - 257]? with
        | none => .error .literal
        | some step =>
          match stepped? step b with
          | none => .ok (out, none)
          | some (length, b) =>
            match distanceOf distances b with
            | .error e => .error e
            | .ok none => .ok (out, none)
            | .ok (some (distance, b)) =>
              if out.size < distance then .error .tooFar
              else symbols literals distances left (copy distance length out) b

/-! ### Codes -/

/-- The codes of a block that describes none. -/
def fixedLiterals : Code :=
  Code.ofLengths (List.replicate 144 8 ++ List.replicate 112 9 ++ List.replicate 24 7 ++
    List.replicate 8 8)

def fixedDistances : Code := Code.ofLengths (List.replicate 32 5)

/-- The order in which the lengths of the words for lengths are given. -/
def lengthOrder : List Nat := [16, 17, 18, 0, 8, 7, 9, 6, 10, 5, 11, 4, 12, 3, 13, 2, 14, 1, 15]

/-- Reads lengths of three bits each. -/
def shortLengths? : Nat → Bits → Option (List Nat × Bits)
  | 0, b => some ([], b)
  | n + 1, b => do
    let (x, b) ← b.number? 3
    let (xs, b) ← shortLengths? n b
    pure (x :: xs, b)

/-- How often a symbol for repeated lengths repeats at least, and the number of extra bits. -/
def repeatStep (symbol : Nat) : Nat × Nat :=
  if symbol = 16 then (3, 2) else if symbol = 17 then (3, 3) else (11, 7)

/-- Reads `total` lengths; `done` are those so far, in reverse. Every symbol gives a length at least,
so `left` is enough if it is as great as the number of lengths. -/
def longLengths (code : Code) (total : Nat) :
    Nat → List Nat → Bits → Except Fault (Option (List Nat × Bits))
  | 0, done, b => .ok (some (done.reverse, b))
  | left + 1, done, b =>
    if total ≤ done.length then .ok (some (done.reverse, b))
    else
      match code.next? b with
      | none => .ok none
      | some (symbol, b) =>
        let symbol := symbol.getD 0
        if symbol < 16 then longLengths code total left (symbol :: done) b
        else
          match stepped? (repeatStep symbol) b with
          | none => .ok none
          | some (count, b) =>
            match if symbol = 16 then done.head? else some 0 with
            | none => .error .repeated
            | some length =>
              if total < done.length + count then .error .repeated
              else longLengths code total left (List.replicate count length ++ done) b

/-- The code with words of these lengths, if it can be read with. -/
def codeOf (fault : Fault) (lengths : List Nat) : Except Fault Code :=
  let code := Code.ofLengths lengths
  if code.isUsable then .ok code else .error fault

/-- Reads the codes of a block: for literals and lengths, and for distances. -/
def codes (b : Bits) : Except Fault (Option (Code × Code × Bits)) :=
  match do
    let (literals, b) ← b.number? 5
    let (distances, b) ← b.number? 5
    let (short, b) ← b.number? 4
    pure (literals + 257, distances + 1, short + 4, b) with
  | none => .ok none
  | some (literals, distances, short, b) =>
    if 286 < literals || 30 < distances then .error .tooManySymbols
    else
      match shortLengths? short b with
      | none => .ok none
      | some (given, b) => do
        let pairs := lengthOrder.zip given
        let code := Code.ofLengths ((List.range 19).map fun s => (pairs.lookup s).getD 0)
        if !(code.isEmpty || code.isComplete) then throw .lengthsCode
        match ← longLengths code (literals + distances) (literals + distances) [] b with
        | none => pure none
        | some (lengths, b) =>
          if (lengths[256]?).getD 0 = 0 then throw .noEnd
          let l ← codeOf .literalCode (lengths.take literals)
          let d ← codeOf .distanceCode (lengths.drop literals)
          pure (some (l, d, b))

/-! ### Blocks -/

/-- Reads a block that is stored as it is. -/
def stored (out : Array UInt8) (b : Bits) : Except Fault Progress :=
  match b.aligned with
  | a :: b :: c :: d :: rest =>
    let length := a.toNat + 256 * b.toNat
    if length + c.toNat + 256 * d.toNat ≠ 65535 then .error .storedLength
    else
      let bytes := rest.take length
      let out := out ++ bytes.toArray
      .ok (out, if bytes.length < length then none else some (.ofBytes (rest.drop length)))
  | _ => .ok (out, none)

/-- Reads a block of a type. -/
def block (type : Nat) (out : Array UInt8) (b : Bits) : Except Fault Progress :=
  match type with
  | 0 => stored out b
  | 1 => symbols fixedLiterals fixedDistances (b.size + 1) out b
  | 2 =>
    match codes b with
    | .error e => .error e
    | .ok none => .ok (out, none)
    | .ok (some (literals, distances, b)) => symbols literals distances (b.size + 1) out b
  | _ => .error .blockType

/-- Reads blocks up to the last one. Every block takes a bit at least, so `left` is enough if it
exceeds the number of bits. -/
def blocks : Nat → Array UInt8 → Bits → Except Fault Progress
  | 0, out, _ => .ok (out, none)
  | left + 1, out, b =>
    match b.number? 3 with
    | none => .ok (out, none)
    | some (head, b) =>
      match block (head / 2) out b with
      | .error e => .error e
      | .ok (out, none) => .ok (out, none)
      | .ok (out, some b) => if head % 2 = 1 then .ok (out, some b) else blocks left out b

/-- The bytes that data stands for, and what follows the data; nothing if it ends too early. -/
def inflate (data : Bytes) : Except Fault (Bytes × Option Bytes) :=
  (blocks (8 * data.length + 1) #[] (.ofBytes data)).map fun (out, left) =>
    (out.toList, left.map Bits.aligned)

end Storybind.Deflate
