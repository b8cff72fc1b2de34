import Storybind.Number.Reading
import Storybind.Value.Display

/-!
JSON text of a value. Keys that are numbers, truth values or null are written as their JSON spelling
between quotes; days, moments, byte strings and sets are written as the text that displays them. A
container met again inside itself, a key of any other kind and a whole number of too many digits
cannot be written.
-/

namespace Storybind.Json

/-- How JSON text is laid out: whether everything outside ASCII is escaped, and the width of one
level of indentation, `none` for a single line. -/
structure Layout where
  ascii : Bool
  indent : Option Nat
deriving DecidableEq

/-- Why a value has no JSON text. -/
inductive WriteError where
  | circular
  | keyKind (kind : String)
  | tooManyDigits
deriving DecidableEq

def WriteError.message : WriteError → String
  | .circular => "Circular reference detected"
  | .keyKind kind => "keys must be str, int, float, bool or None, not " ++ kind
  | .tooManyDigits => overlongMessage

/-- The four-digit escape of a UTF-16 unit. -/
def unitEscape (n : Nat) : List Char := '\\' :: 'u' :: Text.hexPad 4 n

/-- The written form of one character between the quotes. -/
def escapeChar (ascii : Bool) (c : Char) : List Char :=
  let n := c.toNat
  if c = '\x22' then ['\\', '\x22']
  else if c = '\\' then ['\\', '\\']
  else if c = '\n' then ['\\', 'n']
  else if c = '\r' then ['\\', 'r']
  else if c = '\t' then ['\\', 't']
  else if n = 8 then ['\\', 'b']
  else if n = 12 then ['\\', 'f']
  else if n < 32 then unitEscape n
  else if ascii && 126 < n then
    if n < 0x10000 then unitEscape n
    else unitEscape (0xd800 + (n - 0x10000) / 1024) ++ unitEscape (0xdc00 + (n - 0x10000) % 1024)
  else [c]

/-- A text between quotes. -/
def string (ascii : Bool) (s : String) : List Char :=
  '\x22' :: s.toList.flatMap (escapeChar ascii) ++ ['\x22']

/-- The spelling of a double. -/
def floatChars (x : Float) : List Char :=
  match floatView x with
  | .nan => "NaN".toList
  | .infinite false => "Infinity".toList
  | .infinite true => "-Infinity".toList
  | .finite _ _ => (floatText x).toList

/-- The digits of a whole number. -/
def intText (n : Int) : Except WriteError String :=
  if isOverlong n then .error .tooManyDigits else .ok (toString n)

/-- The text of a scalar. -/
def scalar (ascii : Bool) : Scalar → Except WriteError (List Char)
  | .null => .ok "null".toList
  | .bool true => .ok "true".toList
  | .bool false => .ok "false".toList
  | .int n => (intText n).map String.toList
  | .float x => .ok (floatChars x)
  | .text s => .ok (string ascii s)
  | s => .ok (string ascii s.display)

/-- The text of a key, without quotes. -/
def keyText : Scalar → Except WriteError String
  | .text s => .ok s
  | .null => .ok "null"
  | .bool true => .ok "true"
  | .bool false => .ok "false"
  | .int n => intText n
  | .float x => .ok (String.ofList (floatChars x))
  | .bytes _ => .error (.keyKind "bytes")
  | .day _ _ => .error (.keyKind "date")
  | .moment _ _ => .error (.keyKind "datetime")

/-- The line break and indentation before an item at a depth; nothing on a single line. -/
def breakAt (layout : Layout) (depth : Nat) : List Char :=
  match layout.indent with
  | none => []
  | some width => '\n' :: List.replicate (width * depth) ' '

/-- What stands between two items. -/
def itemMark (layout : Layout) (depth : Nat) : List Char :=
  match layout.indent with
  | none => [',', ' ']
  | some _ => ',' :: breakAt layout depth

/-- The items of a container with marks between them. -/
def joinItems (mark : List Char) : List (List Char) → List Char
  | [] => []
  | [p] => p
  | p :: rest => p ++ mark ++ joinItems mark rest

/-- A container around its items, written at a depth. -/
def enclose (layout : Layout) (depth : Nat) (opening closing : Char) (items : List (List Char)) :
    List Char :=
  if items.isEmpty then [opening, closing]
  else
    opening :: breakAt layout (depth + 1) ++ joinItems (itemMark layout (depth + 1)) items ++
      breakAt layout depth ++ [closing]

mutual

/-- The text of a value; `path` are the labels of the containers around it. -/
def value (layout : Layout) (path : List Nat) : Value → Except WriteError (List Char)
  | .scalar s => scalar layout.ascii s
  | .list label xs => do
    if label ≠ 0 && path.contains label then throw .circular
    let parts ← items layout (label :: path) xs
    pure (enclose layout path.length '[' ']' parts)
  | .mapping label es => do
    if label ≠ 0 && path.contains label then throw .circular
    let parts ← fields layout (label :: path) es
    pure (enclose layout path.length '\x7b' '\x7d' parts)
  | .set label members => .ok (string layout.ascii (Value.set label members).display)
  | .pair a b => do
    let first ← value layout (0 :: path) a
    let second ← value layout (0 :: path) b
    pure (enclose layout path.length '[' ']' [first, second])
  | .back _ => .error .circular

/-- The texts of the items of a list. -/
def items (layout : Layout) (path : List Nat) : List Value → Except WriteError (List (List Char))
  | [] => .ok []
  | v :: rest => do
    let first ← value layout path v
    let others ← items layout path rest
    pure (first :: others)

/-- The texts of the fields of a mapping. -/
def fields (layout : Layout) (path : List Nat) :
    List (Scalar × Value) → Except WriteError (List (List Char))
  | [] => .ok []
  | (k, v) :: rest => do
    let name ← keyText k
    let body ← value layout path v
    let others ← fields layout path rest
    pure ((string layout.ascii name ++ ':' :: ' ' :: body) :: others)

end

/-- The JSON text of a value. -/
def write (layout : Layout) (v : Value) : Except WriteError String :=
  (value layout [] v).map String.ofList

end Storybind.Json
