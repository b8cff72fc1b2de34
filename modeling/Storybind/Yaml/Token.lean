import Storybind.Yaml.Refusal

/-!
Tokens of YAML: the indicators, the starts and ends of collections that indentation implies, and
scalars with the line folding and the escapes undone.
-/

namespace Storybind.Yaml

/-- How a scalar is written. -/
inductive ScalarStyle where
  | plain
  | single
  | double
  | literal
  | folded
deriving DecidableEq, Repr

/-- A directive at the start of a document. -/
inductive Directive where
  | version (major minor : Nat)
  | tag (handle expansion : String)
  | other (name : String)
deriving DecidableEq, Repr

inductive TokenKind where
  | streamEnd
  | directive (d : Directive)
  | documentStart
  | documentEnd
  | blockSequenceStart
  | blockMappingStart
  | blockEnd
  | flowSequenceStart
  | flowMappingStart
  | flowSequenceEnd
  | flowMappingEnd
  | blockEntry
  | flowEntry
  | key
  | value
  | alias (name : String)
  | anchor (name : String)
  | tag (handle : Option String) (suffix : String)
  | scalar (content : String) (style : ScalarStyle)
deriving DecidableEq, Repr

/-- A token and where it starts. -/
structure Token where
  kind : TokenKind
  start : Mark
deriving Repr

/-- The name of a token in messages. -/
def TokenKind.name : TokenKind → String
  | .streamEnd => "<stream end>"
  | .directive _ => "<directive>"
  | .documentStart => "<document start>"
  | .documentEnd => "<document end>"
  | .blockSequenceStart => "<block sequence start>"
  | .blockMappingStart => "<block mapping start>"
  | .blockEnd => "<block end>"
  | .flowSequenceStart => "["
  | .flowMappingStart => "\x7b"
  | .flowSequenceEnd => "]"
  | .flowMappingEnd => "\x7d"
  | .blockEntry => "-"
  | .flowEntry => ","
  | .key => "?"
  | .value => ":"
  | .alias _ => "<alias>"
  | .anchor _ => "<anchor>"
  | .tag _ _ => "<tag>"
  | .scalar _ _ => "<scalar>"

end Storybind.Yaml
