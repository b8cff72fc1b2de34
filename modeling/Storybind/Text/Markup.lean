import Storybind.Text.Pieces

/-!
Text in markup: the five characters that element text and double-quoted attributes must not hold are
written as character references.
-/

namespace Storybind.Text

/-- The written form of one character. -/
def escapeMarkupChar (c : Char) : List Char :=
  if c = '&' then "&amp;".toList
  else if c = '<' then "&lt;".toList
  else if c = '>' then "&gt;".toList
  else if c = '\x22' then "&quot;".toList
  else if c = '\x27' then "&#x27;".toList
  else [c]

/-- A text as it is written in element text or in a double-quoted attribute. -/
def escapeMarkup (s : String) : String := String.ofList (s.toList.flatMap escapeMarkupChar)

end Storybind.Text
