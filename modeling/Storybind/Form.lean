import Storybind.Number.Reading
import Storybind.Text.Utf8
import Storybind.Value.Display
import Storybind.Value.Key

/-!
Reading free-form values into records. Every field says what it takes: texts are taken as they are,
whole numbers and truth values also from their usual spellings. All flaws of a value are found, in
the order of the fields, each with the place where it is.
-/

namespace Storybind

/-- One step on the way to a place in a value. -/
inductive Step where
  | field (name : String)
  | index (n : Nat)
deriving DecidableEq, Repr

/-- What is wrong with a value at a place. -/
inductive Mismatch where
  | missing
  | text
  | textBytes
  | int
  | intText
  | intSize
  | intFraction
  | notFinite
  | bool
  | boolText
  | list
  | mapping
  | keyText
  | record (kind : String)
  | fields
  | kindOf (options : List String)
  | oneOf (options : List String)
  | rule (complaint : String)
  | json (complaint : String)
deriving DecidableEq, Repr

/-- Options as a sentence lists them. -/
def optionList : List String → String
  | [] => ""
  | [a] => "'" ++ a ++ "'"
  | [a, b] => "'" ++ a ++ "' or '" ++ b ++ "'"
  | a :: rest => "'" ++ a ++ "', " ++ optionList rest

/-- The name of a mismatch. -/
def Mismatch.code : Mismatch → String
  | .missing => "missing"
  | .text => "string_type"
  | .textBytes => "string_unicode"
  | .int => "int_type"
  | .intText => "int_parsing"
  | .intSize => "int_parsing_size"
  | .intFraction => "int_from_float"
  | .notFinite => "finite_number"
  | .bool => "bool_type"
  | .boolText => "bool_parsing"
  | .list => "list_type"
  | .mapping => "dict_type"
  | .keyText => "invalid_key"
  | .record _ => "model_type"
  | .fields => "model_attributes_type"
  | .kindOf _ => "enum"
  | .oneOf _ => "literal_error"
  | .rule _ => "value_error"
  | .json _ => "json_invalid"

/-- The sentence for a mismatch. -/
def Mismatch.message : Mismatch → String
  | .missing => "Field required"
  | .text => "Input should be a valid string"
  | .textBytes => "Input should be a valid string, unable to parse raw data as a unicode string"
  | .int => "Input should be a valid integer"
  | .intText => "Input should be a valid integer, unable to parse string as an integer"
  | .intSize => "Unable to parse input string as an integer, exceeded maximum size"
  | .intFraction => "Input should be a valid integer, got a number with a fractional part"
  | .notFinite => "Input should be a finite number"
  | .bool => "Input should be a valid boolean"
  | .boolText => "Input should be a valid boolean, unable to interpret input"
  | .list => "Input should be a valid list"
  | .mapping => "Input should be a valid dictionary"
  | .keyText => "Keys should be strings"
  | .record kind => "Input should be a valid dictionary or instance of " ++ kind
  | .fields => "Input should be a valid dictionary or object to extract fields from"
  | .kindOf options => "Input should be " ++ optionList options
  | .oneOf options => "Input should be " ++ optionList options
  | .rule complaint => "Value error, " ++ complaint
  | .json _ => "JSON decode error"

/-- A mismatch with its place. -/
structure Flaw where
  place : List Step
  mismatch : Mismatch
deriving DecidableEq, Repr

/-- The written form of a step. -/
def Step.text : Step → String
  | .field name => name
  | .index n => toString n

/-- Flaws in lines: their number and the kind of record they are in, then each with its place. -/
def Flaw.summary (kind : String) (flaws : List Flaw) : String :=
  toString flaws.length ++ (if flaws.length = 1 then " validation error" else " validation errors") ++
    " for " ++ kind ++ String.join (flaws.map fun f =>
      "\n" ++ Text.join "." (f.place.map Step.text) ++ "\n  " ++ f.mismatch.message)

/-- Why a value cannot be read: its flaws, or an address that is looked into although it is no
text. -/
inductive FormError where
  | flaws (list : List Flaw)
  | noLetters (kind : String)
  | bytesAddress
deriving DecidableEq, Repr

/-- The outcome of reading a value. -/
structure Form (α : Type) where
  outcome : Except FormError α

namespace Form

variable {α β : Type}

def ok (a : α) : Form α := ⟨.ok a⟩

def flaw (mismatch : Mismatch) : Form α := ⟨.error (.flaws [⟨[], mismatch⟩])⟩

/-- Reads two things; the flaws of both are kept. -/
def apply (f : Form (α → β)) (x : Form α) : Form β :=
  match f.outcome, x.outcome with
  | .ok g, .ok a => ⟨.ok (g a)⟩
  | .error (.flaws fs), .error (.flaws gs) => ⟨.error (.flaws (fs ++ gs))⟩
  | .error (.flaws _), .error e => ⟨.error e⟩
  | .error e, _ => ⟨.error e⟩
  | .ok _, .error e => ⟨.error e⟩

instance : Functor Form where
  map f x := ⟨x.outcome.map f⟩

instance : Applicative Form where
  pure := ok
  seq f x := apply f (x ())

/-- Goes on with what was read, if it was read without flaws. -/
def andThen (x : Form α) (f : α → Form β) : Form β :=
  match x.outcome with
  | .ok a => f a
  | .error e => ⟨.error e⟩

/-- Puts a step before the places of all flaws. -/
def under (step : Step) (x : Form α) : Form α :=
  ⟨x.outcome.mapError fun e =>
    match e with
    | .flaws fs => .flaws (fs.map fun f => { f with place := step :: f.place })
    | e => e⟩

/-- Checks what was read against a rule that may complain. -/
def ruled (complaint? : α → Option String) (x : Form α) : Form α :=
  x.andThen fun a =>
    match complaint? a with
    | none => ok a
    | some complaint => flaw (.rule complaint)

/-! ### Plain values -/

/-- A text; bytes are taken as UTF-8. -/
def text : Value → Form String
  | .text s => ok s
  | .scalar (.bytes b) =>
    match Text.decode b with
    | .ok s => ok s
    | .error _ => flaw .textBytes
  | _ => flaw .text

/-- A blank around a number's text. -/
def isMargin (c : Char) : Bool := Text.isBlank c && !(28 ≤ c.toNat && c.toNat ≤ 31)

/-- The text of a number without a fraction of zeros, of which there is at least one. -/
def dropZeroFraction (s : List Char) : List Char :=
  match s.dropWhile (· ≠ '.') with
  | '.' :: '0' :: part => if part.all (· = '0') then s.takeWhile (· ≠ '.') else s
  | _ => s

/-- The text of a number without the zeros it begins with, underscores between them included. A
minus may follow them. -/
def dropLeadingZeros? (s : List Char) : Option (List Char) :=
  match s with
  | '0' :: rest =>
    let zeros := rest.takeWhile fun c => c = '0' || c = '_'
    match rest.drop zeros.length with
    | [] => some [(('0' :: zeros).getLast?).getD '0']
    | '.' :: more => some ((('0' :: zeros).getLast?).getD '0' :: '.' :: more)
    | c :: more => if Text.isAsciiDigit c || c = '-' then some (c :: more) else none
  | c :: _ => if Text.isAsciiDigit c || c = '-' then some s else none
  | [] => none

/-- Whether two underscores follow each other. -/
def hasDoubleUnderscore : List Char → Bool
  | '_' :: '_' :: _ => true
  | _ :: rest => hasDoubleUnderscore rest
  | [] => false

/-- The text of a number without the single underscores in it. -/
def dropUnderscores (s : List Char) : List Char :=
  if s.head? = some '_' || s.getLast? = some '_' || hasDoubleUnderscore s then s
  else s.filter (· ≠ '_')

/-- A whole number in its plain spelling: a minus or none, and digits that begin with a zero only
if there is no other. -/
def plainInt? (s : List Char) : Option Int :=
  let (negative, digits) := match s with
    | '-' :: rest => (true, rest)
    | _ => (false, s)
  if digits.isEmpty || maxDigits < digits.length || !digits.all Text.isAsciiDigit then none
  else if digits.head? = some '0' && 1 < digits.length then none
  else some (withSign negative (digitsValue 10 (digits.map fun c => c.toNat - 48)))

/-- The plain spelling of the text of a whole number. -/
def plainSpelling? (s : List Char) : Option (List Char) :=
  let s := Text.trimRightWhere isMargin (Text.trimLeftWhere isMargin s)
  let unsigned? := match s with
    | '+' :: '-' :: _ => none
    | '+' :: rest => some rest
    | _ => some s
  unsigned?.bind fun s =>
    (dropLeadingZeros? s).map fun s => dropUnderscores (dropZeroFraction s)

/-- Whether a text begins with more digits than are read. -/
def startsOverlong (s : List Char) : Bool :=
  let digits := (match s with | '-' :: rest => rest | _ => s).takeWhile Text.isAsciiDigit
  digits.head? ≠ some '0' && maxDigits < digits.length

/-- A whole number from its text. -/
def intOfText (s : String) : Form Int :=
  if startsOverlong s.toList then flaw .intSize
  else
    match (plainSpelling? s.toList).bind plainInt? with
    | some n => ok n
    | none => flaw .intText

/-- A whole number: also one without a fraction, a truth value, or the text of a number. -/
def int : Value → Form Int
  | .int n => ok n
  | .bool b => ok (if b then 1 else 0)
  | .text s => intOfText s
  | .scalar (.bytes b) =>
    match Text.decode b with
    | .ok s => intOfText s
    | .error _ => flaw .intText
  | .float x =>
    match floatView x with
    | .finite _ _ =>
      match wholeOfFloat? x with
      | some n => if n.natAbs < Nat.pow 2 63 then ok n else flaw .intSize
      | none => flaw .intFraction
    | _ => flaw .notFinite
  | _ => flaw .int

/-- The spellings of the truth values. -/
def falseWords : List String := ["0", "off", "f", "false", "n", "no"]
def trueWords : List String := ["1", "on", "t", "true", "y", "yes"]

/-- A truth value from its text, in any letter case. -/
def boolOfText (s : String) : Form Bool :=
  let word := String.ofList (s.toList.map Char.toLower)
  if falseWords.contains word then ok false
  else if trueWords.contains word then ok true
  else flaw .boolText

/-- A truth value: also zero, one, or a word for it. -/
def bool : Value → Form Bool
  | .bool b => ok b
  | .int n =>
    if n = 0 then ok false
    else if n = 1 then ok true
    else if -Nat.pow 2 63 ≤ n && n < Nat.pow 2 63 then flaw .boolText
    else flaw .bool
  | .float x =>
    match wholeOfFloat? x with
    | some n =>
      if n = 0 then ok false
      else if n = 1 then ok true
      else if n.natAbs < Nat.pow 2 63 then flaw .boolText
      else flaw .bool
    | none => flaw .bool
  | .text s => boolOfText s
  | .scalar (.bytes b) =>
    match Text.decode b with
    | .ok s => boolOfText s
    | .error _ => flaw .boolText
  | _ => flaw .bool

/-- Any value. -/
def any (v : Value) : Form Value := ok v

/-- One of some words, as `named` gives them. -/
def choice (named : List (String × α)) (mismatch : List String → Mismatch) : Value → Form α
  | .text s =>
    match named.lookup s with
    | some a => ok a
    | none => flaw (mismatch (named.map (·.1)))
  | _ => flaw (mismatch (named.map (·.1)))

/-- Something or null. -/
def optional (read : Value → Form α) : Value → Form (Option α)
  | .null => ok none
  | v => some <$> read v

/-- The items of a list, from a position on. -/
def itemsFrom (read : Value → Form α) : Nat → List Value → Form (List α)
  | _, [] => ok []
  | n, v :: rest => List.cons <$> under (.index n) (read v) <*> itemsFrom read (n + 1) rest

/-- A list. -/
def list (read : Value → Form α) : Value → Form (List α)
  | .list _ items => itemsFrom read 0 items
  | .set _ members => itemsFrom read 0 (members.map .scalar)
  | .pair a b => itemsFrom read 0 [a, b]
  | _ => flaw .list

/-- The flaws of keys that are no texts. -/
def keyFlaws (entries : Entries) : List Flaw :=
  entries.filterMap fun e =>
    match e.1 with
    | .text _ => none
    | k => some ⟨[.field k.display], .keyText⟩

/-- A mapping with texts for keys. -/
def mapping : Value → Form Entries
  | .mapping _ entries => ok entries
  | _ => flaw .mapping

/-- Entries whose keys are texts. -/
def textKeyed (entries : Entries) : Form Entries :=
  let keyText (e : Scalar × Value) : Form (Scalar × Value) :=
    (fun s => (Scalar.text s, e.2)) <$>
      under (.field e.1.display) (under (.field "[key]") (text (.scalar e.1)))
  Entries.ofPairs <$> entries.foldr (fun e rest => List.cons <$> keyText e <*> rest) (ok [])

/-- A mapping all of whose keys are texts. -/
def textMapping (v : Value) : Form Entries := (mapping v).andThen textKeyed

/-- The entries of a value that is to be read as a record. -/
def record (kind : String) (read : Entries → Form α) : Value → Form α
  | .mapping _ entries => read entries
  | _ => flaw (.record kind)

/-- What is wrong with a value where records are only asked to have fields. -/
def Mismatch.loosened : Mismatch → Mismatch
  | .record _ => .fields
  | m => m

/-- Reads as before, with the flaws of records that are only asked to have fields. -/
def loosely (x : Form α) : Form α :=
  ⟨x.outcome.mapError fun e =>
    match e with
    | .flaws fs => .flaws (fs.map fun f => { f with mismatch := Mismatch.loosened f.mismatch })
    | e => e⟩

/-! ### Fields -/

/-- The value of a field under the first of its names that occurs. -/
def lookupFirst (entries : Entries) : List String → Option Value
  | [] => none
  | name :: rest => (Entries.get? name entries).or (lookupFirst entries rest)

/-- A field that must be there. Its first name is the one that flaws are reported under. -/
def required (entries : Entries) (names : List String) (read : Value → Form α) : Form α :=
  under (.field (names.headD "")) <|
    match lookupFirst entries names with
    | some v => read v
    | none => flaw .missing

/-- A field that stands for something else when it is not there. -/
def withDefault (entries : Entries) (names : List String) (default : α) (read : Value → Form α) :
    Form α :=
  match lookupFirst entries names with
  | some v => under (.field (names.headD "")) (read v)
  | none => ok default

/-- A field that may be missing or null. -/
def maybe (entries : Entries) (name : String) (read : Value → Form α) : Form (Option α) :=
  withDefault entries [name] none (optional read)

/-- The entries under other names than those of the fields. -/
def extras (entries : Entries) (names : List String) : Entries :=
  entries.filter fun e => !names.any fun n => e.1.sameKey (.text n)

end Form

/-- The sentence of the first flaw. -/
def FormError.firstMessage : FormError → String
  | .flaws (f :: _) => f.mismatch.message
  | .flaws [] => ""
  | .noLetters kind => "'" ++ kind ++ "' object has no attribute 'lower'"
  | .bytesAddress => "a bytes-like object is required, not 'str'"

end Storybind
