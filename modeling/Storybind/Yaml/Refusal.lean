import Storybind.Number.Reading
import Storybind.Value.Display

/-!
Why a YAML text is refused. Most refusals say what was being read and what is wrong, and point to a
place in the text; a scalar whose written form does not fit its type has a refusal of its own.
-/

namespace Storybind.Yaml

/-- A place in a text, counted from zero. -/
structure Mark where
  line : Nat
  column : Nat
deriving DecidableEq, Repr

/-- The next place on the line. -/
def Mark.next (m : Mark) : Mark := ⟨m.line, m.column + 1⟩

/-- The layer of the format at which a text is refused: its characters, its tokens, the structure of
collections, the graph of anchors and documents, or the values of nodes. -/
inductive Layer where
  | characters
  | tokens
  | collections
  | graph
  | values
deriving DecidableEq, Repr

/-- A refusal by the rules of the format. -/
structure Refusal where
  layer : Layer
  context : Option String
  problem : String
  mark : Option Mark
deriving DecidableEq, Repr

/-- What was being read, or what is wrong where that is not known. -/
def Refusal.message (r : Refusal) : String := r.context.getD r.problem

/-- A scalar that its type does not admit. -/
inductive ScalarError where
  | unknownTruth (written : String)
  | noTimestamp
  | emptyNumber
  | badInt (base : Nat) (written : String)
  | tooManyDigits (count : Nat)
  | badFloat (written : String)
  | yearRange (year : Nat)
  | monthRange
  | dayRange
  | hourRange
  | minuteRange
  | secondRange
  | offsetRange (minutes : Int)
  | codePointRange
  | codePointSize
  | noText
deriving DecidableEq, Repr

/-- The span of an offset of a day or more. -/
def spanText (minutes : Int) : String :=
  let days := Int.fdiv minutes 1440
  let seconds := Int.fmod minutes 1440 * 60
  let parts := (if days = 0 then [] else ["days=" ++ toString days]) ++
    (if seconds = 0 then [] else ["seconds=" ++ toString seconds])
  "datetime.timedelta(" ++ Text.join ", " parts ++ ")"

def ScalarError.message : ScalarError → String
  | .unknownTruth s => Text.quoted s
  | .noTimestamp => "'NoneType' object has no attribute 'groupdict'"
  | .emptyNumber => "string index out of range"
  | .badInt base s =>
    "invalid literal for int() with base " ++ toString base ++ ": " ++ Text.take 200 (Text.quoted s)
  | .tooManyDigits n => DigitLimit.message ⟨n⟩
  | .badFloat s => "could not convert string to float: " ++ Text.quoted s
  | .yearRange y => "year " ++ toString y ++ " is out of range"
  | .monthRange => "month must be in 1..12"
  | .dayRange => "day is out of range for month"
  | .hourRange => "hour must be in 0..23"
  | .minuteRange => "minute must be in 0..59"
  | .secondRange => "second must be in 0..59"
  | .offsetRange m =>
    "offset must be a timedelta strictly between -timedelta(hours=24) and timedelta(hours=24), not " ++
      spanText m ++ "."
  | .codePointRange => "chr() arg not in range(0x110000)"
  | .codePointSize => "Python int too large to convert to C int"
  | .noText => "expected string or bytes-like object, got 'list'"

/-- Why a text gives no value. -/
inductive LoadError where
  | refused (r : Refusal)
  | scalar (e : ScalarError)
deriving DecidableEq, Repr

def LoadError.message : LoadError → String
  | .refused r => r.message
  | .scalar e => e.message

end Storybind.Yaml
