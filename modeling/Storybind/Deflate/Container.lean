import Storybind.Deflate.Block

/-!
Containers of compressed data: a header, the data, and sums by which the bytes are checked. What
follows the container does not count. One that ends too early gives what can be read of it.
-/

namespace Storybind.Deflate

/-! ### Sums -/

/-- One bit of the division that a cyclic sum is the remainder of. -/
def cyclicStep (n : UInt32) : UInt32 :=
  if n &&& 1 = 1 then (0xedb88320 : UInt32) ^^^ (n >>> 1) else n >>> 1

/-- The cyclic sum with one more byte. -/
def cyclicByte (n : UInt32) (b : UInt8) : UInt32 :=
  (List.range 8).foldl (fun n _ => cyclicStep n) (n ^^^ b.toUInt32)

/-- The cyclic sum of bytes. -/
def cyclicSum (bytes : Bytes) : Nat := (bytes.foldl cyclicByte 0xffffffff ^^^ 0xffffffff).toNat

/-- The sum of bytes, and the sum of the sums up to every byte. -/
def doubleSum (bytes : Bytes) : Nat :=
  let (a, b) := bytes.foldl (fun (a, b) x =>
    let a := (a + x.toNat) % 65521
    (a, (a + b) % 65521)) (1, 0)
  b * 65536 + a

/-- The number that bytes denote, the least significant first. -/
def littleEndian (bytes : Bytes) : Nat := bytes.foldr (fun x n => x.toNat + 256 * n) 0

/-- The next `n` bytes, if there are as many. -/
def take? (n : Nat) (b : Bytes) : Option (Bytes × Bytes) :=
  let taken := b.take n
  if taken.length = n then some (taken, b.drop n) else none

/-! ### The container with a name -/

/-- What follows a text that a zero ends. -/
def afterText? (b : Bytes) : Option Bytes :=
  match b.dropWhile (· ≠ 0) with
  | [] => none
  | _ :: rest => some rest

/-- What follows the optional fields of a header. -/
def afterFields? (flags : Nat) (b : Bytes) : Option Bytes := do
  let (_, b) ← take? 6 b
  let b ← if flags.testBit 2 then do
      let (n, b) ← take? 2 b
      (take? (littleEndian n) b).map Prod.snd
    else some b
  let b ← if flags.testBit 3 then afterText? b else some b
  if flags.testBit 4 then afterText? b else some b

/-- What follows the header, if the container does not end before. -/
def afterHeader (b : Bytes) : Except Fault (Option Bytes) :=
  match b with
  | x :: y :: rest =>
    if x ≠ 0x1f || y ≠ 0x8b then .error .header
    else
      match rest with
      | method :: flags :: fields =>
        if method ≠ 8 then .error .method
        else if 32 ≤ flags.toNat then .error .flags
        else
          match afterFields? flags.toNat fields with
          | none => .ok none
          | some rest =>
            if flags.toNat.testBit 1 then
              match take? 2 rest with
              | none => .ok none
              | some (sum, after) =>
                if littleEndian sum = cyclicSum (b.take (b.length - rest.length)) % 65536 then
                  .ok (some after)
                else .error .headerSum
            else .ok (some rest)
      | _ => .ok none
  | _ => .ok none

/-- Checks the sum and the length after the data, as far as they are there. -/
def checkEnd (bytes rest : Bytes) : Except Fault Unit :=
  match take? 4 rest with
  | none => .ok ()
  | some (sum, rest) =>
    if littleEndian sum ≠ cyclicSum bytes then .error .dataSum
    else
      match take? 4 rest with
      | none => .ok ()
      | some (length, _) =>
        if littleEndian length ≠ bytes.length % 4294967296 then .error .dataLength else .ok ()

/-- The bytes in a container of the kind that may hold a name. -/
def gunzip (b : Bytes) : Except Fault Bytes := do
  match ← afterHeader b with
  | none => pure []
  | some data =>
    let (bytes, rest) ← inflate data
    match rest with
    | none => pure ()
    | some rest => checkEnd bytes rest
    pure bytes

/-! ### The short container -/

/-- The bytes in a container of two bytes and a sum. -/
def unwrap (b : Bytes) : Except Fault Bytes :=
  match b with
  | method :: flags :: data => do
    if (256 * method.toNat + flags.toNat) % 31 ≠ 0 then throw .header
    if method.toNat % 16 ≠ 8 then throw .method
    if 7 < method.toNat / 16 then throw .window
    if flags.toNat.testBit 5 then
      if data.length < 4 then pure [] else throw .dictionary
    else
      let (bytes, rest) ← inflate data
      match rest.bind (take? 4) with
      | some (sum, _) =>
        if littleEndian sum.reverse = doubleSum bytes then pure bytes else throw .dataSum
      | none => pure bytes
  | _ => pure []

/-- The bytes in a short container, or of bare data where there is no sound container. -/
def unwrapOrInflate (b : Bytes) : Except Fault Bytes :=
  match unwrap b with
  | .ok bytes => .ok bytes
  | .error _ => (inflate b).map Prod.fst

end Storybind.Deflate
