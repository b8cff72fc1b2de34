import Storybind.Text.Markup

/-!
Elements of markup. Attributes are data, and their values are escaped in the one place where an
element is written, so no value can end its attribute or its element.
-/

namespace Storybind

/-- An attribute: a name with a value, or a name alone. -/
inductive Attribute where
  | valued (name value : String)
  | flag (name : String)
deriving DecidableEq, Repr

/-- An element without content; a paired one has a closing tag. -/
structure Element where
  name : String
  attributes : List Attribute
  paired : Bool
deriving DecidableEq, Repr

namespace Attribute

def name : Attribute → String
  | .valued name _ => name
  | .flag name => name

/-- The written form of an attribute, with the blank before it. -/
def render : Attribute → String
  | .valued name value => " " ++ name ++ "=\"" ++ Text.escapeMarkup value ++ "\""
  | .flag name => " " ++ name

/-- A flag if a condition holds. -/
def flagIf (condition : Bool) (name : String) : List Attribute :=
  if condition then [.flag name] else []

/-- An attribute with a value that is neither missing nor empty. -/
def ofFilled (name : String) : Option String → List Attribute
  | none => []
  | some value => if value.isEmpty then [] else [.valued name value]

end Attribute

namespace Element

/-- The tag that opens an element. -/
def openingTag (e : Element) : String :=
  "<" ++ e.name ++ String.join (e.attributes.map Attribute.render) ++ ">"

/-- The written form of an element. -/
def render (e : Element) : String :=
  if e.paired then e.openingTag ++ "</" ++ e.name ++ ">" else e.openingTag

/-- The written form of a comment with some text, escaped. -/
def comment (text : String) : String := "<!-- " ++ text ++ " -->"

end Element
end Storybind
