import Storybind.Text.Pieces

/-!
Script source without its module exports, so that it can stand in a page: an export statement of a
name or of a list goes away, and a declaration loses the `export` before it. Only lines that start
with `export` are touched.
-/

namespace Storybind.Exports

open Text (isBlank isWord after?)

/-- Where a statement ends, if nothing but blanks follows on its line: at the last line break of the
blanks, or at the end of the source. -/
def lineEnd? (s : List Char) : Option (List Char) :=
  let blanks := s.takeWhile isBlank
  let rest := s.dropWhile isBlank
  if rest.isEmpty then some []
  else if blanks.contains '\n' then
    some ((blanks.reverse.takeWhile (· ≠ '\n')).reverse |> fun tail => '\n' :: tail ++ rest)
  else none

/-- What follows at least one blank. -/
def afterBlanks? : List Char → Option (List Char)
  | c :: cs => if isBlank c then some (cs.dropWhile isBlank) else none
  | [] => none

/-- The end of `export default NAME;`. -/
def defaultName? (s : List Char) : Option (List Char) := do
  let s ← afterBlanks? (← after? "export".toList s)
  let s ← afterBlanks? (← after? "default".toList s)
  if (s.takeWhile isWord).isEmpty then none
  else
    match s.dropWhile isWord with
    | ';' :: r => lineEnd? r
    | r => lineEnd? r

/-- The end of an export of a list of names in braces. -/
def nameList? (s : List Char) : Option (List Char) := do
  let s ← after? "export".toList s
  let s ← after? ['\x7b'] (s.dropWhile isBlank)
  let s ← after? ['\x7d'] (s.dropWhile (· ≠ '\x7d'))
  match s.dropWhile isBlank with
  | ';' :: r => (lineEnd? r).or (lineEnd? s)
  | _ => lineEnd? s

/-- The words that begin a declaration. -/
def declarationWords : List String := ["class", "function", "const", "let", "var"]

/-- Whether a text begins with a whole word of declarations. -/
def startsDeclaration (s : List Char) : Bool :=
  declarationWords.any fun w =>
    match after? w.toList s with
    | some [] => true
    | some (c :: _) => !isWord c
    | none => false

/-- What follows a word and blanks, or the whole if the text does not begin so. -/
def skipWord (word : String) (s : List Char) : List Char :=
  match after? word.toList s with
  | some r => (afterBlanks? r).getD s
  | none => s

/-- The declaration after its `export` and `export default`. -/
def declaration? (s : List Char) : Option (List Char) := do
  let s ← afterBlanks? (← after? "export".toList s)
  let body := skipWord "default" s
  if startsDeclaration (skipWord "async" body) then some body else none

/-- The source without what a rule takes away at the starts of its lines; `skip` characters still
belong to the last piece taken away. -/
def removeFrom (rule : List Char → Option (List Char)) (lineStart : Bool) :
    Nat → List Char → List Char
  | _, [] => []
  | skip + 1, c :: cs => removeFrom rule (c = '\n') skip cs
  | 0, c :: cs =>
    if lineStart then
      match rule (c :: cs) with
      | some rest => removeFrom rule (c = '\n') (cs.length - rest.length) cs
      | none => c :: removeFrom rule (c = '\n') 0 cs
    else c :: removeFrom rule (c = '\n') 0 cs

/-- The source without what a rule takes away at the starts of its lines. -/
def remove (rule : List Char → Option (List Char)) (s : List Char) : List Char :=
  removeFrom rule true 0 s

/-- The source without its exports and without blanks at its ends. -/
def strip (source : String) : String :=
  String.ofList
    (Text.trimChars (remove declaration? (remove nameList? (remove defaultName? source.toList))))

end Storybind.Exports
