import Storybind.Number.Reading
import Storybind.Value.Key

/-!
Reading JSON text. Besides the standard forms, `NaN`, `Infinity` and `-Infinity` are numbers; a
number with a fraction or an exponent is a double, any other a whole number. Of two fields with one
name the later gives the value. A refusal names the line, the column and the character.
-/

namespace Storybind.Json

/-- Why a text is not JSON. -/
inductive ReadFault where
  | byteOrderMark
  | expectingValue
  | expectingName
  | expectingColon
  | expectingComma
  | unterminated
  | controlCharacter
  | badEscape
  | badUnitEscape
  | extraData
deriving DecidableEq

def ReadFault.message : ReadFault → String
  | .byteOrderMark => "Unexpected UTF-8 BOM (decode using utf-8-sig)"
  | .expectingValue => "Expecting value"
  | .expectingName => "Expecting property name enclosed in double quotes"
  | .expectingColon => "Expecting ':' delimiter"
  | .expectingComma => "Expecting ',' delimiter"
  | .unterminated => "Unterminated string starting at"
  | .controlCharacter => "Invalid control character at"
  | .badEscape => "Invalid \\escape"
  | .badUnitEscape => "Invalid \\uXXXX escape"
  | .extraData => "Extra data"

/-- A refusal: a fault at a character, or a whole number with too many digits. -/
inductive ReadError where
  | fault (fault : ReadFault) (position : Nat)
  | tooManyDigits (count : Nat)
deriving DecidableEq

/-- The message of a refusal of a text. -/
def ReadError.message (text : List Char) : ReadError → String
  | .fault f position =>
    let before := text.take position
    let line := (before.filter (· = '\n')).length + 1
    let column := (before.reverse.takeWhile (· ≠ '\n')).length + 1
    f.message ++ ": line " ++ toString line ++ " column " ++ toString column ++ " (char " ++
      toString position ++ ")"
  | .tooManyDigits count => DigitLimit.message ⟨count⟩

/-- The unread text and the number of characters read. -/
structure Cursor where
  rest : List Char
  position : Nat

namespace Cursor

/-- Passes over `n` characters. -/
def skip (n : Nat) (c : Cursor) : Cursor := ⟨c.rest.drop n, c.position + n⟩

/-- Passes over blanks. -/
def blanks (c : Cursor) : Cursor :=
  c.skip (c.rest.takeWhile fun x => x = ' ' || x = '\t' || x = '\n' || x = '\r').length

def fail {α : Type} (c : Cursor) (fault : ReadFault) : Except ReadError α :=
  .error (.fault fault c.position)

end Cursor

/-- The number of four hexadecimal digits at the head of a text. -/
def unit? (cs : List Char) : Option Nat :=
  match cs with
  | a :: b :: c :: d :: _ => do
    let a ← Text.hexValue? a
    let b ← Text.hexValue? b
    let c ← Text.hexValue? c
    let d ← Text.hexValue? d
    pure (a * 4096 + b * 256 + c * 16 + d)
  | _ => none

/-- The character of a one-letter escape. -/
def shortEscape? (c : Char) : Option Char :=
  if c = '\x22' || c = '\\' || c = '/' then some c
  else if c = 'b' then some '\x08'
  else if c = 'f' then some '\x0c'
  else if c = 'n' then some '\n'
  else if c = 'r' then some '\r'
  else if c = 't' then some '\t'
  else none

/-- The rest of a text after its opening quote at `start`, up to the closing one; `skip` characters
belong to the escape read last. -/
def stringFrom (start : Nat) : Nat → Nat → List Char → Except ReadError (List Char × Nat)
  | _, _, [] => .error (.fault .unterminated start)
  | skip + 1, position, _ :: cs => stringFrom start skip (position + 1) cs
  | 0, position, c :: cs =>
    if c = '\x22' then .ok ([], position + 1)
    else if c.toNat < 32 then .error (.fault .controlCharacter position)
    else if c ≠ '\\' then
      (stringFrom start 0 (position + 1) cs).map fun r => (c :: r.1, r.2)
    else
      match cs with
      | [] => .error (.fault .unterminated start)
      | 'u' :: ds =>
        match unit? ds, ds.drop 4 with
        | none, _ => .error (.fault .badUnitEscape (position + 1))
        | _, [] => .error (.fault .badUnitEscape (position + 1))
        | some high, '\\' :: 'u' :: es =>
          if 0xd800 ≤ high && high < 0xdc00 && 4 < es.length then
            match unit? es with
            | none => .error (.fault .badUnitEscape (position + 7))
            | some low =>
              if 0xdc00 ≤ low && low < 0xe000 then
                let n := 0x10000 + (high - 0xd800) * 1024 + (low - 0xdc00)
                (stringFrom start 11 (position + 1) cs).map fun r => (Char.ofNat n :: r.1, r.2)
              else
                (stringFrom start 5 (position + 1) cs).map fun r =>
                  (Char.ofNat 0xfffd :: r.1, r.2)
          else
            let x := if 0xd800 ≤ high && high < 0xe000 then 0xfffd else high
            (stringFrom start 5 (position + 1) cs).map fun r => (Char.ofNat x :: r.1, r.2)
        | some n, _ =>
          let x := if 0xd800 ≤ n && n < 0xe000 then 0xfffd else n
          (stringFrom start 5 (position + 1) cs).map fun r => (Char.ofNat x :: r.1, r.2)
      | e :: _ =>
        match shortEscape? e with
        | none => .error (.fault .badEscape position)
        | some x => (stringFrom start 1 (position + 1) cs).map fun r => (x :: r.1, r.2)

/-- Reads a text whose opening quote is at the cursor. -/
def stringAt (c : Cursor) : Except ReadError (String × Cursor) := do
  let (cs, stop) ← stringFrom c.position 0 (c.position + 1) (c.rest.drop 1)
  pure (String.ofList cs, c.skip (stop - c.position))

/-- The digits before the point of a number: a zero stands alone. -/
def wholeDigits : List Char → List Char
  | '0' :: _ => ['0']
  | cs => cs.takeWhile Text.isAsciiDigit

/-- The digits after a point at the head of a text. -/
def partDigits : List Char → List Char
  | '.' :: cs => cs.takeWhile Text.isAsciiDigit
  | _ => []

/-- The exponent at the head of a text: whether it is negative, its digits, and how many characters it
takes; there is none without digits. -/
def exponentAt : List Char → Bool × List Char × Nat
  | [] => (false, [], 0)
  | e :: cs =>
    if e = 'e' || e = 'E' then
      let (negative, body) := signOf cs
      let ds := body.takeWhile Text.isAsciiDigit
      if ds.isEmpty then (false, [], 0)
      else (negative, ds, 1 + (cs.length - body.length) + ds.length)
    else (false, [], 0)

/-- The number that decimal digits denote. -/
def numberOf (ds : List Char) : Nat := digitsValue 10 (ds.map fun d => d.toNat - 48)

/-- Reads a number; `none` if there is none at the cursor. -/
def numberAt (c : Cursor) : Except ReadError (Option (Value × Cursor)) :=
  let negative := c.rest.head? == some '-'
  let body := if negative then c.rest.drop 1 else c.rest
  let whole := wholeDigits body
  if whole.isEmpty then .ok none
  else
    let rest := body.drop whole.length
    let part := partDigits rest
    let rest := if part.isEmpty then rest else rest.drop (part.length + 1)
    let (expNegative, expDigits, expLength) := exponentAt rest
    let length := (if negative then 1 else 0) + whole.length +
      (if part.isEmpty then 0 else part.length + 1) + expLength
    if part.isEmpty && expDigits.isEmpty then
      if maxDigits < whole.length then .error (.tooManyDigits whole.length)
      else .ok (some (.int (withSign negative (numberOf whole)), c.skip length))
    else
      let e := withSign expNegative (numberOf expDigits) - part.length
      .ok (some (.float (floatOfDecimal negative (numberOf (whole ++ part)) e), c.skip length))

/-- The words that are values. -/
def wordAt? (c : Cursor) : Option (Value × Cursor) :=
  let word (w : String) (v : Value) : Option (Value × Cursor) :=
    (Text.after? w.toList c.rest).map fun _ => (v, c.skip w.length)
  word "null" .null <|> word "true" (.bool true) <|> word "false" (.bool false) <|>
    word "NaN" (.float floatNan) <|> word "Infinity" (.float floatInfinity) <|>
    word "-Infinity" (.float (-floatInfinity))

mutual

/-- Reads the value at the cursor; `fuel` bounds the characters left. -/
def valueAt : Nat → Cursor → Except ReadError (Value × Cursor)
  | 0, c => c.fail .expectingValue
  | fuel + 1, c =>
    match c.rest with
    | [] => c.fail .expectingValue
    | '\x22' :: _ => (stringAt c).map fun r => (.text r.1, r.2)
    | '\x7b' :: _ =>
      let c := (c.skip 1).blanks
      match c.rest with
      | '\x7d' :: _ => .ok (.ofEntries [], c.skip 1)
      | _ => (fieldsAt fuel c []).map fun r => (.ofEntries r.1, r.2)
    | '[' :: _ =>
      let c := (c.skip 1).blanks
      match c.rest with
      | ']' :: _ => .ok (.ofList [], c.skip 1)
      | _ => (itemsAt fuel c).map fun r => (.ofList r.1, r.2)
    | _ =>
      match wordAt? c with
      | some r => .ok r
      | none =>
        match numberAt c with
        | .error e => .error e
        | .ok (some r) => .ok r
        | .ok none => c.fail .expectingValue

/-- Reads the fields of an object from the first name to the closing brace. -/
def fieldsAt : Nat → Cursor → Entries → Except ReadError (Entries × Cursor)
  | 0, c, _ => c.fail .expectingName
  | fuel + 1, c, done =>
    match c.rest with
    | '\x22' :: _ => do
      let (name, c) ← stringAt c
      let c := c.blanks
      match c.rest with
      | ':' :: _ =>
        let (v, c) ← valueAt fuel (c.skip 1).blanks
        let c := c.blanks
        let done := Entries.set name v done
        match c.rest with
        | '\x7d' :: _ => pure (done, c.skip 1)
        | ',' :: _ => fieldsAt fuel (c.skip 1).blanks done
        | _ => c.fail .expectingComma
      | _ => c.fail .expectingColon
    | _ => c.fail .expectingName

/-- Reads the items of an array from the first to the closing bracket. -/
def itemsAt : Nat → Cursor → Except ReadError (List Value × Cursor)
  | 0, c => c.fail .expectingValue
  | fuel + 1, c => do
    let (v, c) ← valueAt fuel c
    let c := c.blanks
    match c.rest with
    | ']' :: _ => pure ([v], c.skip 1)
    | ',' :: _ =>
      let (vs, c) ← itemsAt fuel (c.skip 1).blanks
      pure (v :: vs, c)
    | _ => c.fail .expectingComma

end

/-- Reads a JSON text. -/
def readChars (cs : List Char) : Except ReadError Value :=
  if cs.head? == some (Char.ofNat 0xfeff) then .error (.fault .byteOrderMark 0)
  else do
    let (v, c) ← valueAt (cs.length + 1) (Cursor.mk cs 0).blanks
    let c := c.blanks
    if c.rest.isEmpty then pure v else c.fail .extraData

/-- Reads a JSON text. -/
def read (s : String) : Except ReadError Value := readChars s.toList

end Storybind.Json
