import Storybind.Number.Binary
import Storybind.Value

/-!
Keys of mappings: when two scalars are the same key, look-up, and insertion. A later entry of the
same key replaces the value and keeps the key and the position of the first.
-/

namespace Storybind

/-- A double that is a whole number, as that number. -/
def wholeOfFloat? (x : Float) : Option Int :=
  match floatView x with
  | .finite negative b =>
    let r := b.ratio
    if r.1 % r.2 = 0 then
      some (if negative then -((r.1 / r.2 : Nat) : Int) else ((r.1 / r.2 : Nat) : Int))
    else none
  | _ => none

/-- Whether a whole number and a double are equal. -/
def intEqFloat (n : Int) (x : Float) : Bool := wholeOfFloat? x == some n

namespace Scalar

/-- Whether two scalars are the same key. A number that is none is the same key as itself. -/
def sameKey : Scalar → Scalar → Bool
  | .null, .null => true
  | .text a, .text b => a == b
  | .bytes a, .bytes b => a == b
  | .day _ a, .day _ b => a == b
  | .moment _ a, .moment _ b =>
    if a.offset.isSome == b.offset.isSome then a.instant == b.instant else false
  | a, b =>
    match a.asNumber?, b.asNumber? with
    | some (.inl m), some (.inl n) => m == n
    | some (.inl m), some (.inr x) => intEqFloat m x
    | some (.inr x), some (.inl n) => intEqFloat n x
    | some (.inr x), some (.inr y) => x == y || (x.isNaN && y.isNaN)
    | _, _ => false

end Scalar

namespace Entries

/-- The value under a key. -/
def find? (key : Scalar) : Entries → Option Value
  | [] => none
  | (k, v) :: rest => if k.sameKey key then some v else find? key rest

/-- The value under a text. -/
def get? (name : String) (entries : Entries) : Option Value := find? (.text name) entries

/-- Whether a key occurs. -/
def has (key : Scalar) (entries : Entries) : Bool := (find? key entries).isSome

/-- The entries with a value put under a key. -/
def put (key : Scalar) (value : Value) : Entries → Entries
  | [] => [(key, value)]
  | (k, v) :: rest => if k.sameKey key then (k, value) :: rest else (k, v) :: put key value rest

/-- The entries with a value put under a text. -/
def set (name : String) (value : Value) (entries : Entries) : Entries :=
  put (.text name) value entries

/-- Entries put one after another. -/
def ofPairs (pairs : List (Scalar × Value)) : Entries :=
  pairs.foldl (fun entries p => put p.1 p.2 entries) []

end Entries

namespace Value

/-- The value under a text, of a mapping. -/
def get? (name : String) : Value → Option Value
  | .mapping _ entries => Entries.get? name entries
  | _ => none

/-- Whether a value counts as present: not null, false, zero, or empty. -/
def isTruthy : Value → Bool
  | .scalar s =>
    match s with
    | .null => false
    | .bool b => b
    | .int n => n != 0
    | .float x => !(x == 0)
    | .text s => !s.isEmpty
    | .bytes b => !b.isEmpty
    | .day _ _ => true
    | .moment _ _ => true
  | .list _ items => !items.isEmpty
  | .mapping _ entries => !entries.isEmpty
  | .set _ members => !members.isEmpty
  | .pair _ _ => true
  | .back _ => true

/-- The value under a text if it counts as present. -/
def truthy? (name : String) (entries : Entries) : Option Value :=
  (Entries.get? name entries).filter isTruthy

end Value
end Storybind
