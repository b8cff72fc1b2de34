import Storybind.Text.Chars

/-!
Cutting text: trimming blanks, splitting at a mark, finding and replacing a fixed piece. The work is
done on lists of characters; the functions on `String` wrap them.
-/

namespace Storybind.Text

/-- The text without the characters of a class at its start. -/
def trimLeftWhere (p : Char → Bool) (s : List Char) : List Char := s.dropWhile p

/-- The text without the characters of a class at its end. -/
def trimRightWhere (p : Char → Bool) (s : List Char) : List Char :=
  (s.reverse.dropWhile p).reverse

/-- The text without blanks at either end. -/
def trimChars (s : List Char) : List Char := trimRightWhere isBlank (trimLeftWhere isBlank s)

/-- The text without blanks at either end. -/
def trim (s : String) : String := String.ofList (trimChars s.toList)

/-- Whether a text holds nothing but blanks. -/
def isBlankText (s : String) : Bool := s.toList.all isBlank

/-- What follows a fixed beginning, if the text has it. -/
def after? : List Char → List Char → Option (List Char)
  | [], s => some s
  | _ :: _, [] => none
  | p :: ps, c :: cs => if p = c then after? ps cs else none

/-- The texts before and after the first occurrence of a piece. -/
def cutAt? (piece : List Char) : List Char → Option (List Char × List Char)
  | [] => if piece.isEmpty then some ([], []) else none
  | c :: cs =>
    match after? piece (c :: cs) with
    | some rest => some ([], rest)
    | none => (cutAt? piece cs).map fun r => (c :: r.1, r.2)

/-- Whether a piece occurs in a text. -/
def contains (s : String) (piece : String) : Bool := (cutAt? piece.toList s.toList).isSome

/-- The pieces of a text between the occurrences of one character. -/
def splitChars (mark : Char) : List Char → List (List Char)
  | [] => [[]]
  | c :: cs =>
    if c = mark then [] :: splitChars mark cs
    else
      match splitChars mark cs with
      | [] => [[c]]
      | p :: ps => (c :: p) :: ps

/-- The pieces of a text between the occurrences of one character. -/
def split (mark : Char) (s : String) : List String := (splitChars mark s.toList).map String.ofList

/-- The text before the first occurrence of a character, the whole if there is none. -/
def beforeFirst (mark : Char) (s : String) : String := String.ofList (s.toList.takeWhile (· ≠ mark))

/-- The texts before and after the last occurrence of a character. -/
def cutAtLast? (mark : Char) (s : List Char) : Option (List Char × List Char) :=
  let tail := (s.reverse.takeWhile (· ≠ mark)).reverse
  let head := s.reverse.dropWhile (· ≠ mark)
  match head with
  | [] => none
  | _ :: r => some (r.reverse, tail)

/-- Replacement with `skip` characters of a replaced occurrence still to pass over. -/
def replaceFrom (piece new : List Char) : Nat → List Char → List Char
  | _, [] => []
  | skip + 1, _ :: cs => replaceFrom piece new skip cs
  | 0, c :: cs =>
    match after? piece (c :: cs) with
    | some _ => new ++ replaceFrom piece new (piece.length - 1) cs
    | none => c :: replaceFrom piece new 0 cs

/-- Replaces every occurrence of a non-empty piece, from left to right and without overlaps. -/
def replaceChars (piece new s : List Char) : List Char := replaceFrom piece new 0 s

/-- Replaces every occurrence of a non-empty piece, from left to right and without overlaps. -/
def replace (s piece new : String) : String :=
  String.ofList (replaceChars piece.toList new.toList s.toList)

/-- Whether a text begins with a piece. -/
def startsWith (s piece : String) : Bool := (after? piece.toList s.toList).isSome

/-- Whether a text ends with a piece. -/
def endsWith (s piece : String) : Bool := (after? piece.toList.reverse s.toList.reverse).isSome

/-- The first `n` characters. -/
def take (n : Nat) (s : String) : String := String.ofList (s.toList.take n)

/-- All but the first `n` characters. -/
def drop (n : Nat) (s : String) : String := String.ofList (s.toList.drop n)

/-- Joins texts with a separator. -/
def join (sep : String) (xs : List String) : String := sep.intercalate xs

/-- Whether one list of characters comes before another in code point order. -/
def charsLt : List Char → List Char → Bool
  | [], [] => false
  | [], _ :: _ => true
  | _ :: _, [] => false
  | a :: as, b :: bs =>
    if a.toNat < b.toNat then true else if b.toNat < a.toNat then false else charsLt as bs

/-- Code point order of texts, as a test for sorting. -/
def le (a b : String) : Bool := !charsLt b.toList a.toList

/-- Texts in ascending code point order. -/
def sort (xs : List String) : List String := xs.mergeSort le

end Storybind.Text
