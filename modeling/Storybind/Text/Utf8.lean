import Storybind.Text.Chars

/-!
UTF-8. Encoding is total; decoding either refuses the first ill-formed sequence, naming the bytes
and the reason, or puts one replacement character for every ill-formed sequence.
-/

namespace Storybind

/-- The content of a file or of a response. -/
abbrev Bytes := List UInt8

namespace Text

/-- Why a byte sequence is not UTF-8. -/
inductive Utf8Fault where
  | invalidStart
  | invalidContinuation
  | unexpectedEnd
deriving DecidableEq

/-- The first ill-formed sequence of a byte string: where it starts, how long it is, its first
byte. -/
structure Utf8Error where
  start : Nat
  length : Nat
  byte : UInt8
  fault : Utf8Fault

def Utf8Fault.message : Utf8Fault → String
  | .invalidStart => "invalid start byte"
  | .invalidContinuation => "invalid continuation byte"
  | .unexpectedEnd => "unexpected end of data"

def Utf8Error.message (e : Utf8Error) : String :=
  if e.length = 1 then
    "'utf-8' codec can't decode byte 0x" ++ String.ofList (hexPad 2 e.byte.toNat) ++
      " in position " ++ toString e.start ++ ": " ++ e.fault.message
  else
    "'utf-8' codec can't decode bytes in position " ++ toString e.start ++ "-" ++
      toString (e.start + e.length - 1) ++ ": " ++ e.fault.message

/-- What stands at the head of a byte string: a character, or an ill-formed sequence; with it the
number of its bytes. -/
inductive Utf8Head where
  | char (c : Char) (length : Nat)
  | bad (fault : Utf8Fault) (length : Nat)

/-- A continuation byte. -/
def isContinuation (n : Nat) : Bool := 0x80 ≤ n && n ≤ 0xbf

/-- The second byte that may follow a lead byte: no overlong forms, no surrogates, nothing above the
last code point. -/
def secondFits (lead second : Nat) : Bool :=
  isContinuation second &&
    (lead != 0xe0 || 0xa0 ≤ second) && (lead != 0xed || second < 0xa0) &&
    (lead != 0xf0 || 0x90 ≤ second) && (lead != 0xf4 || second < 0x90)

/-- Reads the head of a byte string whose first byte is `lead`. -/
def utf8Head (lead : Nat) (rest : List Nat) : Utf8Head :=
  if lead < 0x80 then .char (Char.ofNat lead) 1
  else if lead < 0xc2 || 0xf4 < lead then .bad .invalidStart 1
  else if lead < 0xe0 then
    match rest with
    | [] => .bad .unexpectedEnd 1
    | b :: _ =>
      if isContinuation b then .char (Char.ofNat ((lead - 0xc0) * 64 + (b - 0x80))) 2
      else .bad .invalidContinuation 1
  else if lead < 0xf0 then
    match rest with
    | [] => .bad .unexpectedEnd 1
    | b :: tail =>
      if !secondFits lead b then .bad .invalidContinuation 1
      else
        match tail with
        | [] => .bad .unexpectedEnd 2
        | c :: _ =>
          if isContinuation c then
            .char (Char.ofNat ((lead - 0xe0) * 4096 + (b - 0x80) * 64 + (c - 0x80))) 3
          else .bad .invalidContinuation 2
  else
    match rest with
    | [] => .bad .unexpectedEnd 1
    | b :: tail =>
      if !secondFits lead b then .bad .invalidContinuation 1
      else
        match tail with
        | [] => .bad .unexpectedEnd 2
        | c :: tail =>
          if !isContinuation c then .bad .invalidContinuation 2
          else
            match tail with
            | [] => .bad .unexpectedEnd 3
            | d :: _ =>
              if isContinuation d then
                .char (Char.ofNat
                  ((lead - 0xf0) * 262144 + (b - 0x80) * 4096 + (c - 0x80) * 64 + (d - 0x80))) 4
              else .bad .invalidContinuation 3

/-- Strict decoding of the bytes from position `pos`, `skip` of them belonging to the last
character read. -/
def decodeFrom (pos : Nat) : Nat → Bytes → Except Utf8Error (List Char)
  | _, [] => .ok []
  | skip + 1, _ :: bs => decodeFrom (pos + 1) skip bs
  | 0, b :: bs =>
    match utf8Head b.toNat ((bs.take 3).map UInt8.toNat) with
    | .bad fault length => .error ⟨pos, length, b, fault⟩
    | .char c length => (decodeFrom (pos + 1) (length - 1) bs).map (c :: ·)

/-- The text of a byte string, refused at the first ill-formed sequence. -/
def decode (bytes : Bytes) : Except Utf8Error String := (decodeFrom 0 0 bytes).map String.ofList

/-- Decoding with replacement, `skip` bytes belonging to the last sequence read. -/
def decodeLossyFrom : Nat → Bytes → List Char
  | _, [] => []
  | skip + 1, _ :: bs => decodeLossyFrom skip bs
  | 0, b :: bs =>
    match utf8Head b.toNat ((bs.take 3).map UInt8.toNat) with
    | .bad _ length => Char.ofNat 0xfffd :: decodeLossyFrom (length - 1) bs
    | .char c length => c :: decodeLossyFrom (length - 1) bs

/-- The text of a byte string, with a replacement character for every ill-formed sequence. -/
def decodeLossy (bytes : Bytes) : String := String.ofList (decodeLossyFrom 0 bytes)

/-- The UTF-8 bytes of a character. -/
def encodeChar (c : Char) : Bytes :=
  let n := c.toNat
  if n < 0x80 then [n.toUInt8]
  else if n < 0x800 then [(0xc0 + n / 64).toUInt8, (0x80 + n % 64).toUInt8]
  else if n < 0x10000 then
    [(0xe0 + n / 4096).toUInt8, (0x80 + n / 64 % 64).toUInt8, (0x80 + n % 64).toUInt8]
  else
    [(0xf0 + n / 262144).toUInt8, (0x80 + n / 4096 % 64).toUInt8, (0x80 + n / 64 % 64).toUInt8,
      (0x80 + n % 64).toUInt8]

/-- The UTF-8 bytes of a text. -/
def encode (s : String) : Bytes := s.toList.flatMap encodeChar

/-- Reads line ends as a text file does: a carriage return, alone or before a line feed, is one line
feed. -/
def unifyLineEnds : List Char → List Char
  | [] => []
  | '\r' :: '\n' :: cs => '\n' :: unifyLineEnds cs
  | '\r' :: cs => '\n' :: unifyLineEnds cs
  | c :: cs => c :: unifyLineEnds cs

/-- The text of a text file. -/
def decodeFile (bytes : Bytes) : Except Utf8Error String :=
  (decodeFrom 0 0 bytes).map fun cs => String.ofList (unifyLineEnds cs)

end Text
end Storybind
