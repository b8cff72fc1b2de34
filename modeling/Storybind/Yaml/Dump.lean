import Storybind.Yaml.Style

/-!
YAML text of a value: block collections indented by two columns, lines folded past column eighty,
scalars in the simplest style that reads back. A container that stands in several places is written
once, under an anchor, and named by aliases elsewhere.
-/

namespace Storybind.Yaml

/-- The text written so far, last piece first, and where the writer stands: `white` after a space or
a line start, `indented` when nothing but indentation and indicators are on the line. -/
structure Writer where
  pieces : List (List Char)
  column : Nat
  white : Bool
  indented : Bool
  opened : List Nat

namespace Writer

def write (cs : List Char) (w : Writer) : Writer :=
  { w with pieces := cs :: w.pieces, column := w.column + cs.length }

/-- Ends the line. -/
def lineBreak (cs : List Char) (w : Writer) : Writer :=
  { w with pieces := cs :: w.pieces, column := 0, white := true, indented := true }

/-- Goes to a column of a new line, or of this one if nothing stands in the way. -/
def indent (column : Nat) (w : Writer) : Writer :=
  let w := if !w.indented || column < w.column || (w.column = column && !w.white) then
    w.lineBreak ['\n'] else w
  if w.column < column then { w.write (List.replicate (column - w.column) ' ') with white := true }
  else w

/-- Writes an indicator, after a space if it needs one. -/
def indicator (cs : List Char) (spaced white indented : Bool) (w : Writer) : Writer :=
  { w.write (if w.white || !spaced then cs else ' ' :: cs) with
    white := white, indented := w.indented && indented }

/-- The width past which lines are folded. -/
def width : Nat := 80

/-- The longest run at the head of a text on which a class is constant. -/
def headRun (p : Char → Bool) : List Char → List Char × List Char
  | [] => ([], [])
  | c :: rest => if p c then (c :: rest.takeWhile p, rest.dropWhile p) else ([], c :: rest)

/-- Writes a plain text, folded at single spaces. -/
def plain (column : Nat) (fold : Bool) : Nat → List Char → Writer → Writer
  | 0, _, w => w
  | fuel + 1, cs, w =>
    match cs with
    | [] => w
    | ' ' :: _ =>
      let (run, rest) := headRun (· = ' ') cs
      let w := if run.length = 1 && width < w.column && fold then
          { w.indent column with white := false, indented := false }
        else w.write run
      plain column fold fuel rest w
    | _ =>
      let (run, rest) := headRun (· ≠ ' ') cs
      plain column fold fuel rest (w.write run)

/-- Writes the line breaks of a single-quoted text; one line feed is written as two. -/
def quotedBreaks (run : List Char) (w : Writer) : Writer :=
  let w := if run.head? = some '\n' then w.lineBreak ['\n'] else w
  run.foldl (fun w c => w.lineBreak [c]) w

/-- Writes a single-quoted text, folded at single spaces. -/
def single (column : Nat) (fold : Bool) : Nat → Bool → List Char → Writer → Writer
  | 0, _, _, w => w
  | fuel + 1, first, cs, w =>
    match cs with
    | [] => w
    | '\x27' :: rest => single column fold fuel false rest (w.write ['\x27', '\x27'])
    | c :: _ =>
      if c = ' ' then
        let (run, rest) := headRun (· = ' ') cs
        let w := if run.length = 1 && width < w.column && fold && !first && !rest.isEmpty then
            w.indent column
          else w.write run
        single column fold fuel false rest w
      else if isWrittenBreak c then
        let (run, rest) := headRun isWrittenBreak cs
        single column fold fuel false rest ((w.quotedBreaks run).indent column)
      else
        let (run, rest) :=
          headRun (fun c => !(c = ' ' || c = '\x27' || isWrittenBreak c)) cs
        single column fold fuel false rest (w.write run)

/-- The upper-case hexadecimal escape of a character. -/
def hexEscape (letter : Char) (digits n : Nat) : List Char :=
  '\\' :: letter :: (Text.hexPad digits n).map Char.toUpper

/-- The escape of a character between double quotes, `none` if it needs none. -/
def escape? (c : Char) : Option (List Char) :=
  let n := c.toNat
  let letters : List (Nat × Char) := [(0, '0'), (7, 'a'), (8, 'b'), (9, 't'), (10, 'n'), (11, 'v'),
    (12, 'f'), (13, 'r'), (27, 'e'), (34, '\x22'), (92, '\\'), (0x85, 'N'), (0x2028, 'L'),
    (0x2029, 'P')]
  match letters.lookup n with
  | some l => some ['\\', l]
  | none =>
    if n ≠ 0xfeff && ((0x20 ≤ n && n ≤ 0x7e) || (0xa0 ≤ n && n ≤ 0xd7ff) ||
        (0xe000 ≤ n && n ≤ 0xfffd)) then none
    else if n < 0x100 then some (hexEscape 'x' 2 n)
    else if n < 0x10000 then some (hexEscape 'u' 4 n)
    else some (hexEscape 'U' 8 n)

/-- Folds a double-quoted text here. -/
def foldDouble (column : Nat) (pending : List Char) (after : Char) (w : Writer) : Writer :=
  let w := (w.write (pending.reverse ++ ['\\'])).indent column
  let w := { w with white := false, indented := false }
  if after = ' ' then w.write ['\\'] else w

/-- Writes a double-quoted text; `pending` are the characters not written yet, last first, `place`
is the number of characters before the next one. -/
def double (column : Nat) (fold : Bool) (place : Nat) (pending : List Char) :
    List Char → Writer → Writer
  | [], w => if pending.isEmpty then w else w.write pending.reverse
  | c :: rest, w =>
    let inside := 0 < place && 1 < rest.length + 1
    match escape? c with
    | some e =>
      let w := if pending.isEmpty then w else w.write pending.reverse
      let w := w.write e
      let w := if inside && width < w.column - 1 && fold then
          foldDouble column [] (rest.headD ' ') w
        else w
      double column fold (place + 1) [] rest w
    | none =>
      if inside && (c = ' ' || pending.isEmpty) && width < w.column + pending.length && fold then
        double column fold (place + 1) [c] rest (foldDouble column pending c w)
      else double column fold (place + 1) (c :: pending) rest w

/-- Writes the lines of a literal text. -/
def literalLines (column : Nat) : List (List Char) → Writer → Writer
  | [], w => w
  | line :: rest, w =>
    let w := if line.isEmpty then w else (w.indent column).write line
    literalLines column rest (w.lineBreak ['\n'])

/-- Writes a text of lines, each ended. -/
def literal (column : Nat) (cs : List Char) (w : Writer) : Writer :=
  let w := (w.indicator ['|'] true false false).lineBreak ['\n']
  literalLines column (Text.splitChars '\n' cs).dropLast w

/-- Writes a scalar whose continuation lines start at a column. -/
def scalar (column : Nat) (isKey : Bool) (s : Scalar) (w : Writer) : Writer :=
  let ws := WrittenScalar.ofScalar s
  let style := ws.style isKey
  let w := if ws.needsTag style then w.indicator ws.tagText true false false else w
  let cs := ws.text
  let fold := !isKey
  match style with
  | .plain =>
    if cs.isEmpty then w
    else
      let w := if w.white then w else w.write [' ']
      plain column fold (cs.length + 1) cs { w with white := false, indented := false }
  | .single =>
    let w := w.indicator ['\x27'] true false false
    (single column fold (cs.length + 1) true cs w).indicator ['\x27'] false false false
  | .literal => literal column cs w
  | _ =>
    let w := w.indicator ['\x22'] true false false
    (double column fold 0 [] cs w).indicator ['\x22'] false false false

end Writer

/-- The anchor of a label: its number. -/
abbrev Anchors := List (Nat × Nat)

/-- The label of a scalar, `0` if it has none. -/
def scalarLabel : Scalar → Nat
  | .day label _ => label
  | .moment label _ => label
  | _ => 0

/-- The labels met so far, and the anchors given so far. -/
structure Census where
  met : List Nat
  anchors : Anchors

namespace Census

/-- Meets a label: whether it is new. A label met again gets the next anchor. -/
def meet (label : Nat) (c : Census) : Bool × Census :=
  if label = 0 then (true, c)
  else if c.met.contains label then
    if (c.anchors.lookup label).isSome then (false, c)
    else (false, { c with anchors := c.anchors ++ [(label, c.anchors.length + 1)] })
  else (true, { c with met := label :: c.met })

def scalar (s : Scalar) (c : Census) : Census := (c.meet (scalarLabel s)).2

mutual

def value : Value → Census → Census
  | .scalar s, c => c.scalar s
  | .list label items, c =>
    let (new, c) := c.meet label
    if new then values items c else c
  | .mapping label entries, c =>
    let (new, c) := c.meet label
    if new then fields entries c else c
  | .set label members, c =>
    let (new, c) := c.meet label
    if new then members.foldl (fun c s => c.scalar s) c else c
  | .pair a b, c => value b (value a c)
  | .back label, c => (c.meet label).2

def values : List Value → Census → Census
  | [], c => c
  | v :: rest, c => values rest (value v c)

def fields : List (Scalar × Value) → Census → Census
  | [], c => c
  | (k, v) :: rest, c => fields rest (value v (c.scalar k))

end

end Census

/-- The name of an anchor. -/
def anchorText (n : Nat) : List Char := 'i' :: 'd' :: Text.padNat 3 n

/-- Writes the anchor or the alias of a label: whether the container itself has to be written. -/
def writeAnchor (anchors : Anchors) (label : Nat) (w : Writer) : Bool × Writer :=
  match anchors.lookup label with
  | none => (true, w)
  | some n =>
    if w.opened.contains label then (false, w.indicator ('*' :: anchorText n) true false false)
    else
      (true, { w.indicator ('&' :: anchorText n) true false false with
        opened := label :: w.opened })

/-- Whether a key fits on the line before its value. -/
def isShortKey (anchors : Anchors) (w : Writer) (s : Scalar) : Bool :=
  let ws := WrittenScalar.ofScalar s
  let t := textTraits ws.text
  let anchor := match anchors.lookup (scalarLabel s) with
    | none => 0
    | some n => (anchorText n).length
  if anchor ≠ 0 && w.opened.contains (scalarLabel s) then true
  else anchor + ws.tagText.length + ws.text.length < 128 && !t.empty && !t.multiline

/-- Writes a scalar, or its alias. -/
def writeScalar (anchors : Anchors) (column : Nat) (isKey : Bool) (s : Scalar) (w : Writer) :
    Writer :=
  let (fresh, w) := writeAnchor anchors (scalarLabel s) w
  if fresh then w.scalar column isKey s else w

/-- Writes a key and the mark after it, at a column. -/
def writeKey (anchors : Anchors) (column : Nat) (k : Scalar) (w : Writer) : Writer :=
  let w := w.indent column
  if isShortKey anchors w k then
    (writeScalar anchors (column + 2) true k w).indicator [':'] false false false
  else
    let w := w.indicator ['?'] true false true
    let w := writeScalar anchors (column + 2) false k w
    (w.indent column).indicator [':'] true false true

mutual

/-- Writes a value inside a collection at a column. `inMapping` tells the kind of the collection. -/
def writeValue (anchors : Anchors) (column : Nat) (inMapping : Bool) : Value → Writer → Writer
  | .scalar s, w => writeScalar anchors (column + 2) false s w
  | .list label items, w =>
    let (fresh, w) := writeAnchor anchors label w
    if !fresh then w
    else if items.isEmpty then
      (w.indicator ['['] true true false).indicator [']'] false false false
    else
      let inner := if inMapping && !w.indented then column else column + 2
      writeItems anchors inner items w
  | .mapping label entries, w =>
    let (fresh, w) := writeAnchor anchors label w
    if !fresh then w
    else if entries.isEmpty then
      (w.indicator ['\x7b'] true true false).indicator ['\x7d'] false false false
    else writeFields anchors (column + 2) entries w
  | .set label members, w =>
    let (fresh, w) := writeAnchor anchors label w
    if !fresh then w
    else
      let w := w.indicator "!!set".toList true false false
      if members.isEmpty then
        (w.indicator ['\x7b'] true true false).indicator ['\x7d'] false false false
      else
        members.foldl (fun w s =>
          writeScalar anchors (column + 4) false .null (writeKey anchors (column + 2) s w)) w
  | .pair a b, w =>
    let inner := if inMapping && !w.indented then column else column + 2
    let item (f : Writer → Writer) (w : Writer) : Writer :=
      f ((w.indent inner).indicator ['-'] true false true)
    item (writeValue anchors inner false b) (item (writeValue anchors inner false a) w)
  | .back label, w => (writeAnchor anchors label w).2

/-- Writes the items of a sequence at a column. -/
def writeItems (anchors : Anchors) (column : Nat) : List Value → Writer → Writer
  | [], w => w
  | v :: rest, w =>
    let w := (w.indent column).indicator ['-'] true false true
    writeItems anchors column rest (writeValue anchors column false v w)

/-- Writes the entries of a mapping at a column. -/
def writeFields (anchors : Anchors) (column : Nat) : List (Scalar × Value) → Writer → Writer
  | [], w => w
  | (k, v) :: rest, w =>
    writeFields anchors column rest
      (writeValue anchors column true v (writeKey anchors column k w))

end

/-- A scalar that has no written form: a whole number of too many digits. -/
def isUnwritable : Scalar → Bool
  | .int n => isOverlong n
  | _ => false

mutual

/-- Whether a value holds a scalar that has no written form. -/
def holdsUnwritable : Value → Bool
  | .scalar s => isUnwritable s
  | .list _ items => itemsHoldUnwritable items
  | .mapping _ entries => entriesHoldUnwritable entries
  | .set _ members => members.any isUnwritable
  | .pair a b => holdsUnwritable a || holdsUnwritable b
  | .back _ => false

def itemsHoldUnwritable : List Value → Bool
  | [] => false
  | v :: rest => holdsUnwritable v || itemsHoldUnwritable rest

def entriesHoldUnwritable : List (Scalar × Value) → Bool
  | [] => false
  | (k, v) :: rest => isUnwritable k || holdsUnwritable v || entriesHoldUnwritable rest

end

/-- The YAML text of a mapping with a label. -/
def dump (label : Nat) (entries : Entries) : String :=
  let anchors := (Census.value (.mapping label entries) ⟨[], []⟩).anchors
  let start : Writer := ⟨[], 0, true, true, []⟩
  let (_, w) := writeAnchor anchors label start
  let w := if entries.isEmpty then
      (w.indicator ['\x7b'] true true false).indicator ['\x7d'] false false false
    else writeFields anchors 0 entries w
  let w := w.indent 0
  String.ofList w.pieces.reverse.flatten

end Storybind.Yaml
