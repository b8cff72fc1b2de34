import Storybind.Text.Utf8

/-!
Free-form values: what a script, a project file or a caller may put where no shape is prescribed.
Mappings keep the order of their entries and have scalar keys; two keys are the same when they
denote the same scalar, numbers being compared by value across their kinds.
-/

namespace Storybind

/-- A calendar day. -/
structure Day where
  year : Nat
  month : Nat
  day : Nat
deriving DecidableEq, Repr

/-- A time of a day: microseconds count the fraction, the offset from UTC is in minutes. -/
structure Moment where
  day : Day
  hour : Nat
  minute : Nat
  second : Nat
  microsecond : Nat
  offset : Option Int
deriving DecidableEq, Repr

/-- A value without parts. Days and moments carry the label of the document node they were read
from, `0` if there is none. -/
inductive Scalar where
  | null
  | bool (b : Bool)
  | int (n : Int)
  | float (x : Float)
  | text (s : String)
  | bytes (b : Bytes)
  | day (label : Nat) (d : Day)
  | moment (label : Nat) (m : Moment)

/-- A free-form value. A label names the document node a container was read from, so that containers
read from one node can be told from equal ones; `0` is no node. `back` stands for an enclosing
container, met again through an alias inside it. -/
inductive Value where
  | scalar (s : Scalar)
  | list (label : Nat) (items : List Value)
  | mapping (label : Nat) (entries : List (Scalar × Value))
  | set (label : Nat) (members : List Scalar)
  | pair (first second : Value)
  | back (label : Nat)

/-- The entries of a mapping, in order. -/
abbrev Entries := List (Scalar × Value)

namespace Scalar

/-- The number that a scalar denotes. -/
def asNumber? : Scalar → Option (Int ⊕ Float)
  | .bool b => some (.inl (if b then 1 else 0))
  | .int n => some (.inl n)
  | .float x => some (.inr x)
  | _ => none

end Scalar

/-- Minutes since the first day of year one, of a moment with a known offset, and the rest below a
minute. -/
def Day.number (d : Day) : Nat :=
  let y := d.year - 1
  let leap := d.year % 4 = 0 && (d.year % 100 != 0 || d.year % 400 = 0)
  let before := [0, 31, 59, 90, 120, 151, 181, 212, 243, 273, 304, 334].getD (d.month - 1) 0
  y * 365 + y / 4 - y / 100 + y / 400 + before + (if leap && 2 < d.month then 1 else 0) + d.day

/-- The instant of a moment on the clock of UTC. -/
def Moment.instant (m : Moment) : Int × Nat × Nat :=
  ((m.day.number * 1440 + m.hour * 60 + m.minute : Nat) - m.offset.getD 0, m.second, m.microsecond)

namespace Value

/-- A text. -/
@[match_pattern] abbrev text (s : String) : Value := .scalar (.text s)

/-- A whole number. -/
@[match_pattern] abbrev int (n : Int) : Value := .scalar (.int n)

/-- A truth value. -/
@[match_pattern] abbrev bool (b : Bool) : Value := .scalar (.bool b)

/-- A floating-point number. -/
@[match_pattern] abbrev float (x : Float) : Value := .scalar (.float x)

/-- No value. -/
@[match_pattern] abbrev null : Value := .scalar .null

/-- A list of no document node. -/
abbrev ofList (items : List Value) : Value := .list 0 items

/-- A mapping of no document node. -/
abbrev ofEntries (entries : Entries) : Value := .mapping 0 entries

/-- A mapping of no document node, with texts for keys. -/
abbrev record (fields : List (String × Value)) : Value :=
  .mapping 0 (fields.map fun f => (.text f.1, f.2))

/-- A text or nothing. -/
def ofOption : Option String → Value
  | some s => .text s
  | none => .null

instance : Inhabited Value := ⟨.null⟩

end Value
end Storybind
