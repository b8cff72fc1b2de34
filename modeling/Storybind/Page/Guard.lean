import Storybind.Text.Pieces

/-!
Text inside a script element. A script ends at the first closing tag, whatever the script means by
it, so a backslash is put into every closing tag in a script's text; a script reads the same with
it. Data must moreover hold no pair of opening braces, which would look like a slot of a template.
-/

namespace Storybind.Page

/-- An ASCII letter in lower case; the dotted and the dotless i and the long s count as their plain
letters. -/
def plainLetter (c : Char) : Char :=
  let n := c.toNat
  if n = 0x130 || n = 0x131 then 'i'
  else if n = 0x17f then 's'
  else c.toLower

/-- Whether the rest of a closing tag of a script, after its first character, starts a text. -/
def closesScript (s : List Char) : Bool := (s.take 7).map plainLetter = "/script".toList

/-- The text of a script with a backslash in every closing tag. -/
def guardChars : List Char → List Char
  | [] => []
  | c :: cs =>
    if c = '<' && closesScript cs then '<' :: '\\' :: guardChars cs else c :: guardChars cs

/-- The text of a script with a backslash in every closing tag. -/
def guardScript (s : String) : String := String.ofList (guardChars s.toList)

/-- A script element with a heading. -/
def scriptElement (label content : String) : String :=
  "<script>\n/* " ++ label ++ " */\n" ++ guardScript content ++ "\n</script>"

/-- JSON text as it may stand in a script element: no closing tag and no two opening braces, both
written with an escape inside the strings where they can only be. -/
def guardData (s : String) : String :=
  Text.replace (Text.replace s "</" "<\\/") "\x7b\x7b" "\x7b\\u007b"

end Storybind.Page
