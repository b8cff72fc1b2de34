import Storybind.Number.Reading
import Storybind.Text.Subject

/-!
Text with slots. A slot is a name in braces, which may be followed by parts of what it stands for, by
`!r` for the quoted text and by a colon and a layout: fill, alignment, width and greatest length. Doubled
braces stand for single ones.
-/

namespace Storybind.Slots

/-- Why a text with slots cannot be filled. -/
inductive SlotError where
  | unknownSlot (name : String)
  | unknownPart (subject : Subject) (name : String)
  | noPosition (n : Nat)
  | outOfRange (subject : Subject)
  | unfit (complaint : String)
  | malformed (complaint : String)
  | tooLarge
deriving DecidableEq, Repr

def SlotError.message : SlotError → String
  | .unknownSlot name => Text.quoted name
  | .unknownPart subject name => subject.lacks name
  | .noPosition n => "Replacement index " ++ toString n ++ " out of range for positional args tuple"
  | .outOfRange subject => subject.beyondEnd
  | .unfit complaint => complaint
  | .malformed complaint => complaint
  | .tooLarge => ""

/-- The complaint about a brace that stands alone. -/
def loneBrace (c : Char) : SlotError :=
  .malformed ("Single '" ++ String.singleton c ++ "' encountered in format string")

/-! ### Layouts -/

/-- How a text is laid out in a slot. -/
structure Layout where
  fill : Char
  align : Char
  width : Nat
  limit : Option Nat
deriving DecidableEq, Repr

def isAlign (c : Char) : Bool := c = '<' || c = '>' || c = '^' || c = '='

/-- The greatest number that a pattern may hold. -/
def maxNumber : Nat := Nat.pow 2 63 - 1

/-- The greatest width that a text can be given. -/
def maxWidth : Nat := Nat.pow 2 40

/-- The number at the start of a text, and the rest. Digits of any writing system count. -/
def leadingNumber (s : List Char) : Except SlotError (Option Nat × List Char) :=
  let ds := (s.takeWhile Text.isDigit).filterMap Text.digitValue?
  let n := digitsValue 10 ds
  if maxNumber < n then .error (.malformed "Too many decimal digits in format string")
  else .ok (if ds.isEmpty then none else some n, s.dropWhile Text.isDigit)

/-- The number that a text is, if it is nothing else. -/
def wholeNumber (s : List Char) : Except SlotError (Option Nat) :=
  if s.all Text.isDigit then (leadingNumber s).map (·.1) else
    (leadingNumber s).map fun _ => none

/-- Fill and alignment at the start of a layout. -/
def alignment (s : List Char) : Option Char × Option Char × List Char :=
  match s with
  | f :: a :: rest =>
    if isAlign a then (some f, some a, rest)
    else if isAlign f then (none, some f, a :: rest) else (none, none, s)
  | [a] => if isAlign a then (none, some a, []) else (none, none, s)
  | [] => (none, none, [])

/-- One of some characters at the start of a text. -/
def leading (allowed : List Char) (s : List Char) : Option Char × List Char :=
  match s with
  | c :: rest => if allowed.contains c then (some c, rest) else (none, s)
  | [] => (none, [])

/-- The marks that separate thousands, which texts do not have. -/
def separators (s : List Char) : Except SlotError (Option Char × List Char) :=
  let both : SlotError := .malformed "Cannot specify both ',' and '_'."
  match s with
  | ',' :: '_' :: _ => .error both
  | '_' :: ',' :: _ => .error both
  | ',' :: rest => .ok (some ',', rest)
  | '_' :: rest => .ok (some '_', rest)
  | rest => .ok (none, rest)

/-- The greatest length after a point. -/
def limitOf (s : List Char) : Except SlotError (Option Nat × List Char) :=
  match s with
  | '.' :: rest =>
    match leadingNumber rest with
    | .ok (some n, r) => .ok (some n, r)
    | .ok (none, _) => .error (.malformed "Format specifier missing precision")
    | .error e => .error e
  | rest => .ok (none, rest)

/-- A character of a layout as complaints show it. -/
def shownCode (c : Char) : String :=
  if 32 < c.toNat && c.toNat < 128 then String.singleton c
  else "\\x" ++ String.ofList (Text.hexCode c)

/-- The kinds of numbers that thousands may be separated in. -/
def separable (separator kind : Char) : Bool :=
  "defgEG%F".toList.contains kind || (separator = '_' && "boxX".toList.contains kind)

/-- Reads a layout. Signs, separators and kinds of numbers are read and refused, the kind first. -/
def layoutOf (whole : List Char) : Except SlotError Layout := do
  let (fill, align, s) := alignment whole
  let (sign, s) := leading [' ', '+', '-'] s
  let (zero, s) := leading ['z'] s
  let (alternate, s) := leading ['#'] s
  let (padding, s) := if fill.isSome then (none, s) else leading ['0'] s
  let (width, s) ← leadingNumber s
  let (separator, s) ← separators s
  let (limit, s) ← limitOf s
  let kind ← match s with
    | [] => pure 's'
    | [c] => pure c
    | _ => throw (.malformed ("Invalid format specifier '" ++ String.ofList whole ++
        "' for object of type 'str'"))
  if let some c := separator then
    if !separable c kind then
      throw (.malformed ("Cannot specify '" ++ String.singleton c ++ "' with '" ++ shownCode kind ++
        "'."))
  if kind ≠ 's' then
    throw (.malformed ("Unknown format code '" ++ shownCode kind ++ "' for object of type 'str'"))
  if sign = some ' ' then
    throw (.malformed "Space not allowed in string format specifier")
  if sign.isSome then
    throw (.malformed "Sign not allowed in string format specifier")
  if zero.isSome then
    throw (.malformed "Negative zero coercion (z) not allowed in string format specifier")
  if alternate.isSome then
    throw (.malformed "Alternate form (#) not allowed in string format specifier")
  if align = some '=' then
    throw (.malformed "'=' alignment not allowed in string format specifier")
  pure ⟨(fill.or padding).getD ' ', align.getD '<', width.getD 0, limit⟩

/-- A text laid out. -/
def layOut (l : Layout) (s : List Char) : Except SlotError (List Char) :=
  let s := match l.limit with
    | some n => s.take n
    | none => s
  let gap := l.width - s.length
  let left := if l.align = '>' then gap else if l.align = '^' then gap / 2 else 0
  if maxWidth < l.width then .error .tooLarge
  else .ok (List.replicate left l.fill ++ s ++ List.replicate (gap - left) l.fill)

/-! ### Values -/

/-- What follows the name of a slot: names of parts after a point, and positions in brackets; `fuel`
bounds their number. -/
def access : Nat → Subject → List Char → Except SlotError Subject
  | 0, subject, _ => .ok subject
  | _, subject, [] => .ok subject
  | fuel + 1, subject, c :: rest =>
    let unnamed : SlotError := .malformed "Empty attribute in format string"
    if c = '.' then
      let name := rest.takeWhile fun c => c ≠ '.' && c ≠ '['
      if name.isEmpty then .error unnamed
      else
        match subject.part? (String.ofList name) with
        | some part => access fuel part (rest.drop name.length)
        | none => .error (.unknownPart subject (String.ofList name))
    else if c = '[' then
      let index := rest.takeWhile (· ≠ ']')
      match rest.drop index.length with
      | [] => .error (.malformed "Missing ']' in format string")
      | _ :: after =>
        if index.isEmpty then .error unnamed
        else
          match wholeNumber index, subject with
          | .error e, _ => .error e
          | .ok none, _ | .ok _, .kind _ => .error (.unfit subject.noIndexing)
          | .ok (some n), _ =>
            match subject.item? n with
            | some item => access fuel item after
            | none => .error (.outOfRange subject)
    else .error (.malformed "Only '.' or '[' may follow ']' in format field specifier")

/-- What the name of a slot stands for. -/
def named (slots : List (String × String)) (field : List Char) : Except SlotError Subject := do
  let name := field.takeWhile fun c => c ≠ '.' && c ≠ '['
  match slots.lookup (String.ofList name) with
  | some v => access field.length (.text v.toList) (field.drop name.length)
  | none =>
    if name.isEmpty then throw (.noPosition 0)
    match ← wholeNumber name with
    | some n => throw (.noPosition n)
    | none => throw (.unknownSlot (String.ofList name))

/-- A subject with its conversion. -/
def converted (conversion : Option Char) (subject : Subject) : Except SlotError Subject :=
  match conversion with
  | none => .ok subject
  | some 's' => .ok (.text subject.shown)
  | some 'r' =>
    match subject with
    | .text s => .ok (.text (Text.quoteChars s))
    | s => .ok (.text s.shown)
  | some 'a' =>
    match subject with
    | .text s => .ok (.text (Text.quoteAsciiChars s))
    | s => .ok (.text s.shown)
  | some c => .error (.malformed ("Unknown conversion specifier " ++ shownCode c))

/-- A subject in a layout. Only texts can be laid out. -/
def laidOut (layout : List Char) (subject : Subject) : Except SlotError (List Char) :=
  if layout.isEmpty then .ok subject.shown
  else
    match subject with
    | .text s => do layOut (← layoutOf layout) s
    | s => .error (.unfit ("unsupported format string passed to " ++ s.kindName ++ ".__format__"))

/-! ### Slots -/

/-- A slot: the name with what follows it, the conversion and the layout. -/
structure Slot where
  name : List Char
  conversion : Option Char
  layout : List Char
deriving DecidableEq, Repr

/-- The name of a slot up to the character that ends it, and the rest from there. In brackets
nothing ends it. -/
def scanName : Bool → List Char → Except SlotError (List Char × List Char)
  | _, [] => .ok ([], [])
  | true, c :: cs => (scanName (c ≠ ']') cs).map fun r => (c :: r.1, r.2)
  | false, c :: cs =>
    if c = '\x7b' then .error (.malformed "unexpected '\x7b' in field name")
    else if c = '\x7d' || c = ':' || c = '!' then .ok ([], c :: cs)
    else (scanName (c = '[') cs).map fun r => (c :: r.1, r.2)

/-- A layout up to the closing brace of its slot, braces inside it nesting, and the rest. -/
def scanLayout : Nat → List Char → Except SlotError (List Char × List Char)
  | _, [] => .error (.malformed "unmatched '\x7b' in format spec")
  | depth, c :: cs =>
    if c = '\x7d' then
      match depth with
      | 0 => .ok ([], cs)
      | d + 1 => (scanLayout d cs).map fun r => (c :: r.1, r.2)
    else if c = '\x7b' then (scanLayout (depth + 1) cs).map fun r => (c :: r.1, r.2)
    else (scanLayout depth cs).map fun r => (c :: r.1, r.2)

/-- The slot that a text after an opening brace holds, and the rest. -/
def scan (s : List Char) : Except SlotError (Slot × List Char) := do
  let (name, after) ← scanName false s
  let laidOut (conversion : Option Char) (s : List Char) : Except SlotError (Slot × List Char) :=
    (scanLayout 0 s).map fun r => (⟨name, conversion, r.1⟩, r.2)
  match after with
  | [] => throw (.malformed "expected '\x7d' before end of string")
  | ':' :: s => laidOut none s
  | ['!'] => throw (.malformed "end of string while looking for conversion specifier")
  | '!' :: k :: s =>
    match s with
    | '\x7d' :: rest => pure (⟨name, some k, []⟩, rest)
    | ':' :: s => laidOut (some k) s
    | [] => laidOut (some k) []
    | _ => throw (.malformed "expected ':' after conversion specifier")
  | _ :: rest => pure (⟨name, none, []⟩, rest)

/-- Fills the slots of a text; slots stand in layouts `depth` deep at most, and `fuel` bounds the
length. -/
def fillFrom (slots : List (String × String)) :
    Nat → Nat → List Char → Except SlotError (List Char)
  | 0, _, _ => .error (.malformed "Max string recursion exceeded")
  | _, 0, _ => .ok []
  | _, _, [] => .ok []
  | depth + 1, fuel + 1, c :: cs =>
    if c = '\x7d' then
      match cs with
      | '\x7d' :: rest => (fillFrom slots (depth + 1) fuel rest).map ('\x7d' :: ·)
      | _ => .error (loneBrace '\x7d')
    else if c = '\x7b' then
      match cs with
      | [] => .error (loneBrace '\x7b')
      | '\x7b' :: rest => (fillFrom slots (depth + 1) fuel rest).map ('\x7b' :: ·)
      | _ => do
        let (slot, rest) ← scan cs
        let subject ← converted slot.conversion (← named slots slot.name)
        let layout ← if slot.layout.contains '\x7b' then fillFrom slots depth fuel slot.layout
          else pure slot.layout
        let laid ← laidOut layout subject
        let others ← fillFrom slots (depth + 1) fuel rest
        pure (laid ++ others)
    else (fillFrom slots (depth + 1) fuel cs).map (c :: ·)

/-- Fills the slots of a text; one level of slots may stand in layouts. -/
def fill (slots : List (String × String)) (pattern : String) : Except SlotError String :=
  (fillFrom slots 2 (pattern.length + 1) pattern.toList).map String.ofList

end Storybind.Slots
