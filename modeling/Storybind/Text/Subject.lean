import Storybind.Value.Display

/-!
What a slot can stand for: a text, or what is known about the kind of a text. Each subject has parts
that a pattern may ask for by name or by position.
-/

namespace Storybind.Slots

/-- The kinds that patterns can reach. -/
inductive Kind where
  | text
  | kind
  | any
deriving DecidableEq, Repr

namespace Kind

def name : Kind → String
  | .text => "str"
  | .kind => "type"
  | .any => "object"

/-- The written form of a kind. -/
def shown (k : Kind) : String := "<class '" ++ k.name ++ "'>"

/-- The kinds that a kind goes back to, itself first. -/
def line : Kind → List Kind
  | .any => [.any]
  | k => [k, .any]

/-- The description of a kind. -/
def description : Kind → String
  | .text => "str(object='') -> str\nstr(bytes_or_buffer[, encoding[, errors]]) -> str\n\n" ++
      "Create a new string object from the given object. If encoding or\n" ++
      "errors is specified, then the object must expose a data buffer\n" ++
      "that will be decoded using the given encoding and error handler.\n" ++
      "Otherwise, returns the result of object.__str__() (if defined)\n" ++
      "or repr(object).\nencoding defaults to sys.getdefaultencoding().\n" ++
      "errors defaults to 'strict'."
  | .kind => "type(object) -> the object's type\ntype(name, bases, dict, **kwds) -> a new type"
  | .any => "The base class of the class hierarchy.\n\n" ++
      "When called, it accepts no arguments and returns a new featureless\n" ++
      "instance that has no instance attributes and cannot be given any.\n"

end Kind

/-- What a slot stands for. -/
inductive Subject where
  | text (s : List Char)
  | kind (k : Kind)
  | kinds (ks : List Kind)
deriving DecidableEq, Repr

namespace Subject

/-- The written form of a subject. -/
def shown : Subject → List Char
  | .text s => s
  | .kind k => k.shown.toList
  | .kinds [k] => ("(" ++ k.shown ++ ",)").toList
  | .kinds ks => ("(" ++ Text.join ", " (ks.map Kind.shown) ++ ")").toList

/-- The part of a subject under a name. -/
def part? : Subject → String → Option Subject
  | .text _, "__class__" => some (.kind .text)
  | .text _, "__doc__" => some (.text Kind.text.description.toList)
  | .kind _, "__class__" => some (.kind .kind)
  | .kind k, "__doc__" => some (.text k.description.toList)
  | .kind k, "__name__" => some (.text k.name.toList)
  | .kind k, "__qualname__" => some (.text k.name.toList)
  | .kind _, "__module__" => some (.text "builtins".toList)
  | .kind k, "__mro__" => some (.kinds k.line)
  | .kind k, "__bases__" => some (.kinds (k.line.drop 1))
  | .kind k, "__base__" => (k.line.drop 1).head?.map .kind
  | _, _ => none

/-- The item of a subject at a position. -/
def item? : Subject → Nat → Option Subject
  | .text s, n => s[n]?.map fun c => .text [c]
  | .kinds ks, n => ks[n]?.map .kind
  | .kind _, _ => none

/-- The name of the kind of a subject. -/
def kindName : Subject → String
  | .text _ => "str"
  | .kind _ => "type"
  | .kinds _ => "tuple"

/-- The complaint about a part that a subject does not have. -/
def lacks (subject : Subject) (part : String) : String :=
  let owner := match subject with
    | .kind k => "type object '" ++ k.name ++ "'"
    | s => "'" ++ s.kindName ++ "' object"
  owner ++ " has no attribute " ++ Text.quoted part

/-- The complaint about a position that is no number, or about any position of a kind. -/
def noIndexing : Subject → String
  | .text _ => "string indices must be integers, not 'str'"
  | .kind k => "type '" ++ k.name ++ "' is not subscriptable"
  | .kinds _ => "tuple indices must be integers or slices, not str"

/-- The complaint about a position beyond the last. -/
def beyondEnd : Subject → String
  | .kinds _ => "tuple index out of range"
  | _ => "string index out of range"

end Subject
end Storybind.Slots
