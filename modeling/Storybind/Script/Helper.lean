import Storybind.Text.Pieces

/-!
Helpers in text: input fields, written `input:` and a variable, a placeholder, a type and options
between double braces with colons between them, and references to assets, written as a word and a
quoted name after two braces.
-/

namespace Storybind

/-- An input field of a text. -/
structure InputHelper where
  variable_ : String
  kind : String
  options : String
deriving DecidableEq, Repr

namespace Helper

/-- What a reader finds in a text from left to right; `skip` characters still belong to the last
find. A reader gives a find and what follows it. -/
def findAll {α : Type} (read? : List Char → Option (α × List Char)) : Nat → List Char → List α
  | _, [] => []
  | skip + 1, _ :: cs => findAll read? skip cs
  | 0, c :: cs =>
    match read? (c :: cs) with
    | some (a, rest) => a :: findAll read? (cs.length - rest.length) cs
    | none => findAll read? 0 cs

/-- The characters up to a colon or a closing brace. -/
def isPartChar (c : Char) : Bool := c ≠ ':' && c ≠ '\x7d'

/-- A part of an input field that ends in a colon, and what follows. -/
def part? (s : List Char) : Option (List Char × List Char) := do
  let rest ← Text.after? [':'] (s.dropWhile isPartChar)
  pure (s.takeWhile isPartChar, rest)

/-- An input field at the start of a text. -/
def input? (s : List Char) : Option (InputHelper × List Char) := do
  let s ← Text.after? ("\x7b\x7binput:".toList) s
  let (variable_, s) ← part? s
  if variable_.isEmpty then none
  let (_, s) ← part? s
  let kind := s.takeWhile isPartChar
  let s := s.dropWhile isPartChar
  let s := (Text.after? [':'] s).getD s
  let rest ← Text.after? ['\x7d', '\x7d'] (s.dropWhile (· ≠ '\x7d'))
  let options := s.takeWhile (· ≠ '\x7d')
  pure (⟨String.ofList variable_, String.ofList kind, String.ofList options⟩, rest)

/-- The input fields of a text. -/
def inputs (text : String) : List InputHelper := findAll input? 0 text.toList

/-- The words that show an asset. -/
def assetWords : List String := ["showImage", "playAudio", "playVideo"]

/-- Either quote. -/
def isQuote (c : Char) : Bool := c = '\x22' || c = '\x27'

/-- What follows one of some words. -/
def afterWord? (words : List String) (s : List Char) : Option (List Char) :=
  words.findSome? fun w => Text.after? w.toList s

/-- A reference to an asset at the start of a text. -/
def assetName? (s : List Char) : Option (String × List Char) := do
  let s ← Text.after? ['\x7b', '\x7b'] s
  let s ← afterWord? assetWords s
  if (s.takeWhile Text.isBlank).isEmpty then none
  match s.dropWhile Text.isBlank with
  | q :: s =>
    if !isQuote q then none
    else
      let name := s.takeWhile fun c => !isQuote c
      match s.dropWhile fun c => !isQuote c with
      | _ :: rest => if name.isEmpty then none else some (String.ofList name, rest)
      | [] => none
  | [] => none

/-- The names of the assets that a text refers to. -/
def assetNames (text : String) : List String := findAll assetName? 0 text.toList

end Helper
end Storybind
