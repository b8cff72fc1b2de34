import Storybind.Text.Base64
import Storybind.Text.Pieces

/-!
Digests of byte strings. The three digests are one algorithm at two word widths: the message is
padded to whole blocks, every block is stretched into a schedule of words, and the schedule is mixed
into eight words of state. The constants of the narrow digest are the upper halves of those of the
wide one.
-/

namespace Storybind.Digest

/-- The parameters of a digest: word width in bits, rotation amounts of the four mixing functions,
number of rounds, first state and length of the result in bytes. -/
structure Parameters where
  width : Nat
  rounds : Nat
  big0 : Nat × Nat × Nat
  big1 : Nat × Nat × Nat
  small0 : Nat × Nat × Nat
  small1 : Nat × Nat × Nat
  start : List Nat
  length : Nat

/-- The fractions of the cube roots of the first eighty primes, in 64 bits. -/
def roundConstants : List Nat := [
  0x428a2f98d728ae22, 0x7137449123ef65cd, 0xb5c0fbcfec4d3b2f, 0xe9b5dba58189dbbc,
  0x3956c25bf348b538, 0x59f111f1b605d019, 0x923f82a4af194f9b, 0xab1c5ed5da6d8118,
  0xd807aa98a3030242, 0x12835b0145706fbe, 0x243185be4ee4b28c, 0x550c7dc3d5ffb4e2,
  0x72be5d74f27b896f, 0x80deb1fe3b1696b1, 0x9bdc06a725c71235, 0xc19bf174cf692694,
  0xe49b69c19ef14ad2, 0xefbe4786384f25e3, 0x0fc19dc68b8cd5b5, 0x240ca1cc77ac9c65,
  0x2de92c6f592b0275, 0x4a7484aa6ea6e483, 0x5cb0a9dcbd41fbd4, 0x76f988da831153b5,
  0x983e5152ee66dfab, 0xa831c66d2db43210, 0xb00327c898fb213f, 0xbf597fc7beef0ee4,
  0xc6e00bf33da88fc2, 0xd5a79147930aa725, 0x06ca6351e003826f, 0x142929670a0e6e70,
  0x27b70a8546d22ffc, 0x2e1b21385c26c926, 0x4d2c6dfc5ac42aed, 0x53380d139d95b3df,
  0x650a73548baf63de, 0x766a0abb3c77b2a8, 0x81c2c92e47edaee6, 0x92722c851482353b,
  0xa2bfe8a14cf10364, 0xa81a664bbc423001, 0xc24b8b70d0f89791, 0xc76c51a30654be30,
  0xd192e819d6ef5218, 0xd69906245565a910, 0xf40e35855771202a, 0x106aa07032bbd1b8,
  0x19a4c116b8d2d0c8, 0x1e376c085141ab53, 0x2748774cdf8eeb99, 0x34b0bcb5e19b48a8,
  0x391c0cb3c5c95a63, 0x4ed8aa4ae3418acb, 0x5b9cca4f7763e373, 0x682e6ff3d6b2b8a3,
  0x748f82ee5defb2fc, 0x78a5636f43172f60, 0x84c87814a1f0ab72, 0x8cc702081a6439ec,
  0x90befffa23631e28, 0xa4506cebde82bde9, 0xbef9a3f7b2c67915, 0xc67178f2e372532b,
  0xca273eceea26619c, 0xd186b8c721c0c207, 0xeada7dd6cde0eb1e, 0xf57d4f7fee6ed178,
  0x06f067aa72176fba, 0x0a637dc5a2c898a6, 0x113f9804bef90dae, 0x1b710b35131c471b,
  0x28db77f523047d84, 0x32caab7b40c72493, 0x3c9ebe0a15c9bebc, 0x431d67c49c100d4c,
  0x4cc5d4becb3e42b6, 0x597f299cfc657e2a, 0x5fcb6fab3ad6faec, 0x6c44198c4a475817]

/-- The fractions of the square roots of the first eight primes, in 64 bits. -/
def firstRoots : List Nat := [
  0x6a09e667f3bcc908, 0xbb67ae8584caa73b, 0x3c6ef372fe94f82b, 0xa54ff53a5f1d36f1,
  0x510e527fade682d1, 0x9b05688c2b3e6c1f, 0x1f83d9abfb41bd6b, 0x5be0cd19137e2179]

/-- The fractions of the square roots of the next eight primes, in 64 bits. -/
def nextRoots : List Nat := [
  0xcbbb9d5dc1059ed8, 0x629a292a367cd507, 0x9159015a3070dd17, 0x152fecd8f70e5939,
  0x67332667ffc00b31, 0x8eb44a8768581511, 0xdb0c2e0d64f98fa7, 0x47b5481dbefa4fa4]

def sha256 : Parameters :=
  ⟨32, 64, (2, 13, 22), (6, 11, 25), (7, 18, 3), (17, 19, 10), firstRoots.map (· >>> 32), 32⟩

def sha384 : Parameters :=
  ⟨64, 80, (28, 34, 39), (14, 18, 41), (1, 8, 7), (19, 61, 6), nextRoots, 48⟩

def sha512 : Parameters := { sha384 with start := firstRoots, length := 64 }

/-- Rotation of a word to the right. -/
def rotate (width n x : Nat) : Nat := (x >>> n ||| x <<< (width - n)) % Nat.pow 2 width

/-- Three rotations of a word, added bit by bit. -/
def big (width : Nat) (r : Nat × Nat × Nat) (x : Nat) : Nat :=
  rotate width r.1 x ^^^ rotate width r.2.1 x ^^^ rotate width r.2.2 x

/-- Two rotations and a shift of a word, added bit by bit. -/
def small (width : Nat) (r : Nat × Nat × Nat) (x : Nat) : Nat :=
  rotate width r.1 x ^^^ rotate width r.2.1 x ^^^ x >>> r.2.2

/-- The number that bytes denote, the most significant first. -/
def ofBytes (bs : Bytes) : Nat := bs.foldl (fun n b => n * 256 + b.toNat) 0

/-- The `count` bytes of a number, the most significant first. -/
def toBytes : Nat → Nat → Bytes
  | 0, _ => []
  | count + 1, n => toBytes count (n / 256) ++ [(n % 256).toUInt8]

/-- Bytes in groups; `fuel` bounds the number of groups. -/
def groups (size : Nat) : Nat → Bytes → List Bytes
  | 0, _ => []
  | fuel + 1, bs => if bs.isEmpty then [] else bs.take size :: groups size fuel (bs.drop size)

/-- A message padded to whole blocks: a set bit, zeros, and the length in bits. -/
def padded (p : Parameters) (message : Bytes) : Bytes :=
  let block := 2 * p.width
  let tail := p.width / 4
  let used := (message.length + 1 + tail) % block
  message ++ 0x80 :: List.replicate ((block - used) % block) 0 ++ toBytes tail (8 * message.length)

/-- The words of the schedule after the first sixteen, `window` being the last sixteen. -/
def stretch (p : Parameters) : Nat → List Nat → List Nat
  | 0, _ => []
  | count + 1, window =>
    let word (k : Nat) : Nat := window.getD k 0
    let next := (small p.width p.small1 (word 14) + word 9 + small p.width p.small0 (word 1) + word 0) %
      Nat.pow 2 p.width
    next :: stretch p count (window.drop 1 ++ [next])

/-- The schedule of a block. -/
def schedule (p : Parameters) (block : Bytes) : List Nat :=
  let words := (groups (p.width / 8) 16 block).map ofBytes
  words ++ stretch p (p.rounds - 16) words

/-- One round: mixes a scheduled word and a constant into the state. -/
def mixWord (p : Parameters) (state : List Nat) (word constant : Nat) : List Nat :=
  match state with
  | [a, b, c, d, e, f, g, h] =>
    let choose := (e &&& f) ^^^ ((Nat.pow 2 p.width - 1 - e) &&& g)
    let majority := (a &&& b) ^^^ (a &&& c) ^^^ (b &&& c)
    let t1 := h + big p.width p.big1 e + choose + constant + word
    let t2 := big p.width p.big0 a + majority
    [(t1 + t2) % Nat.pow 2 p.width, a, b, c, (d + t1) % Nat.pow 2 p.width, e, f, g]
  | s => s

/-- Mixes a block into the state. -/
def mixBlock (p : Parameters) (state : List Nat) (block : Bytes) : List Nat :=
  let constants := roundConstants.map (· >>> (64 - p.width))
  let mixed := ((schedule p block).zip constants).foldl (fun s w => mixWord p s w.1 w.2) state
  List.zipWith (fun x y => (x + y) % Nat.pow 2 p.width) state mixed

/-- The digest of a message. -/
def digest (p : Parameters) (message : Bytes) : Bytes :=
  let bytes := padded p message
  let blocks := groups (2 * p.width) bytes.length bytes
  ((blocks.foldl (mixBlock p) p.start).flatMap (toBytes (p.width / 8))).take p.length

/-- A byte string in hexadecimal digits. -/
def hex (bytes : Bytes) : String := String.ofList (bytes.flatMap fun b => Text.hexPad 2 b.toNat)

/-- Why an integrity value cannot be compared. -/
inductive IntegrityError where
  | unknownDigest (name : String)
  | notAscii
deriving DecidableEq, Repr

def IntegrityError.message : IntegrityError → String
  | .unknownDigest name => "unsupported hash type " ++ name
  | .notAscii => "comparing strings with non-ASCII characters is not supported"

/-- The digests by name. -/
def named : List (String × Parameters) :=
  [("sha256", sha256), ("sha384", sha384), ("sha512", sha512)]

/-- Whether the digest of a byte string is the one that an integrity value names. -/
def verify (data : Bytes) (integrity : String) : Except IntegrityError Bool :=
  let name := Text.beforeFirst '-' integrity
  let expected := Text.drop (name.length + 1) integrity
  match named.lookup name with
  | none => .error (.unknownDigest name)
  | some p =>
    if expected.toList.any fun c => 127 < c.toNat then .error .notAscii
    else .ok (Text.base64 (digest p data) == expected)

end Storybind.Digest
