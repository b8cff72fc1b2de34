import Storybind.Yaml.Tag
import Storybind.Yaml.TokenStream

/-!
The nodes of a document. Nodes stand in a table and name each other by position, so that an alias is
the position of the node it stands for and a node may contain itself. A stream must hold one
document at most.
-/

namespace Storybind.Yaml

/-- A position in the table of nodes. -/
abbrev NodeId := Nat

inductive NodeContent where
  | scalar (written : String)
  | sequence (items : List NodeId)
  | mapping (entries : List (NodeId × NodeId))
deriving Repr

structure Node where
  tag : Tag
  content : NodeContent
  start : Mark
deriving Repr

/-- The name of a kind of node in messages. -/
def NodeContent.kindName : NodeContent → String
  | .scalar _ => "scalar"
  | .sequence _ => "sequence"
  | .mapping _ => "mapping"

/-- What is left of the token stream, and what the document has defined so far. -/
structure Parse where
  tokens : List Token
  refusal : Option LoadError
  handles : List (String × String)
  anchors : List (String × NodeId)
  nodes : Array Node

/-- A step of reading nodes. -/
abbrev ParseM := StateT Parse (Except LoadError)

namespace Parse

/-- The next token. -/
def peek : ParseM Token := do
  let s ← get
  match s.tokens with
  | t :: _ => pure t
  | [] =>
    match s.refusal with
    | some e => throw e
    | none => pure ⟨.streamEnd, ⟨0, 0⟩⟩

def kind : ParseM TokenKind := do return (← peek).kind

/-- Reads the next token. -/
def next : ParseM Token := do
  let t ← peek
  modify fun s => { s with tokens := s.tokens.drop 1 }
  pure t

def refuse {α : Type} (layer : Layer) (context : Option String) (problem : String) (mark : Mark) :
    ParseM α :=
  throw (.refused ⟨layer, context, problem, some mark⟩)

/-- Adds a node to the table. -/
def add (node : Node) : ParseM NodeId := do
  let s ← get
  set { s with nodes := s.nodes.push node }
  pure s.nodes.size

/-- Gives a collection its content. -/
def fill (id : NodeId) (content : NodeContent) : ParseM Unit :=
  modify fun s => { s with nodes := s.nodes.modify id fun n => { n with content := content } }

def nameAnchor (anchor : Option String) (id : NodeId) : ParseM Unit :=
  match anchor with
  | none => pure ()
  | some a => modify fun s => { s with anchors := (a, id) :: s.anchors }

/-- The scalar that stands where a node is left out. -/
def emptyScalar (mark : Mark) : ParseM NodeId := add ⟨Tag.null, .scalar "", mark⟩

/-- Anchor and tag before the content of a node. -/
structure Properties where
  anchor : Option String
  tag : Option Tag
  start : Option Mark

def anchorAhead : ParseM (Option (String × Mark)) := do
  let t ← peek
  match t.kind with
  | .anchor a => let _ ← next; pure (some (a, t.start))
  | _ => pure none

def tagAhead : ParseM (Option ((Option String × String) × Mark)) := do
  let t ← peek
  match t.kind with
  | .tag h s => let _ ← next; pure (some ((h, s), t.start))
  | _ => pure none

/-- Reads anchor and tag, in either order. -/
def properties : ParseM Properties := do
  let a ← anchorAhead
  let t ← tagAhead
  let a' ← if a.isNone && t.isSome then anchorAhead else pure none
  let start := (a.map (·.2)) <|> (t.map (·.2))
  let anchor := (a <|> a').map (·.1)
  match t with
  | none => pure ⟨anchor, none, start⟩
  | some ((none, suffix), _) => pure ⟨anchor, some suffix, start⟩
  | some ((some handle, suffix), mark) =>
    match (← get).handles.lookup handle with
    | some expansion => pure ⟨anchor, some (expansion ++ suffix), start⟩
    | none =>
      refuse .collections (some "while parsing a node")
        ("found undefined tag handle " ++ Text.quoted handle) mark

/-- Refuses an anchor that is defined already. -/
def checkAnchor (p : Properties) (start : Mark) : ParseM Unit := do
  match p.anchor with
  | none => pure ()
  | some a =>
    if ((← get).anchors.lookup a).isSome then
      refuse .graph
        (some ("found duplicate anchor " ++ Text.quoted a ++ "; first occurrence"))
        "second occurrence" start
    else pure ()

/-- The tag of a collection. -/
def collectionTag (tag : Option Tag) (implied : Tag) : Tag :=
  match tag with
  | none => implied
  | some t => if t = "!" then implied else t

/-- The tag of a scalar. -/
def scalarTag (tag : Option Tag) (written : String) (style : ScalarStyle) : Tag :=
  match tag with
  | none => if style = .plain then impliedTag written else Tag.str
  | some t => if t = "!" then impliedTag written else t

/-- Adds an empty collection and names its anchor, so that its parts can refer to it. -/
def openCollection (p : Properties) (start : Mark) (content : NodeContent) (implied : Tag) :
    ParseM NodeId := do
  checkAnchor p start
  let id ← add ⟨collectionTag p.tag implied, content, start⟩
  nameAnchor p.anchor id
  pure id

mutual

/-- Reads a node. `block` admits block collections, `indentless` a block sequence that is not
indented further than the key before it. -/
def node (block indentless : Bool) : Nat → ParseM NodeId
  | 0 => do refuse .collections none "" (← peek).start
  | fuel + 1 => do
    let t ← peek
    match t.kind with
    | .alias name =>
      let _ ← next
      match (← get).anchors.lookup name with
      | some id => pure id
      | none => refuse .graph none ("found undefined alias " ++ Text.quoted name) t.start
    | _ =>
      let p ← properties
      let t ← peek
      let start := p.start.getD t.start
      match t.kind with
      | .scalar content style =>
        let _ ← next
        checkAnchor p start
        let id ← add ⟨scalarTag p.tag content style, .scalar content, start⟩
        nameAnchor p.anchor id
        pure id
      | .flowSequenceStart =>
        let id ← openCollection p start (.sequence []) Tag.seq
        let _ ← next
        let items ← flowItems t.start true fuel
        fill id (.sequence items)
        pure id
      | .flowMappingStart =>
        let id ← openCollection p start (.mapping []) Tag.map
        let _ ← next
        let entries ← flowEntries t.start true fuel
        fill id (.mapping entries)
        pure id
      | k =>
        if indentless && k = .blockEntry then
          let id ← openCollection p start (.sequence []) Tag.seq
          let items ← indentlessItems fuel
          fill id (.sequence items)
          pure id
        else if block && k = .blockSequenceStart then
          let id ← openCollection p start (.sequence []) Tag.seq
          let _ ← next
          let items ← blockItems t.start fuel
          fill id (.sequence items)
          pure id
        else if block && k = .blockMappingStart then
          let id ← openCollection p start (.mapping []) Tag.map
          let _ ← next
          let entries ← blockEntries t.start fuel
          fill id (.mapping entries)
          pure id
        else if p.anchor.isSome || p.tag.isSome then
          checkAnchor p start
          let id ← add ⟨scalarTag p.tag "" .plain, .scalar "", start⟩
          nameAnchor p.anchor id
          pure id
        else
          refuse .collections
            (some (if block then "while parsing a block node" else "while parsing a flow node"))
            ("expected the node content, but found " ++ Text.quoted k.name) t.start

/-- The entries of a block sequence that starts at `start`. -/
def blockItems (start : Mark) : Nat → ParseM (List NodeId)
  | 0 => pure []
  | fuel + 1 => do
    let t ← peek
    match t.kind with
    | .blockEntry =>
      let _ ← next
      let k ← kind
      let id ← if k = .blockEntry || k = .blockEnd then emptyScalar t.start.next
        else node true false fuel
      let rest ← blockItems start fuel
      pure (id :: rest)
    | .blockEnd => let _ ← next; pure []
    | k =>
      refuse .collections (some "while parsing a block collection")
        ("expected <block end>, but found " ++ Text.quoted k.name) t.start

/-- The entries of a sequence without indentation. -/
def indentlessItems : Nat → ParseM (List NodeId)
  | 0 => pure []
  | fuel + 1 => do
    let t ← peek
    if t.kind = .blockEntry then
      let _ ← next
      let k ← kind
      let id ← if k = .blockEntry || k = .key || k = .value || k = .blockEnd
        then emptyScalar t.start.next else node true false fuel
      let rest ← indentlessItems fuel
      pure (id :: rest)
    else pure []

/-- The entries of a block mapping that starts at `start`. -/
def blockEntries (start : Mark) : Nat → ParseM (List (NodeId × NodeId))
  | 0 => pure []
  | fuel + 1 => do
    let t ← peek
    match t.kind with
    | .blockEnd => let _ ← next; pure []
    | k =>
      if k = .key then
        let _ ← next
        let k ← kind
        let key ← if k = .key || k = .value || k = .blockEnd then emptyScalar t.start.next
          else node true true fuel
        let v ← peek
        let value ← (
          if v.kind = .value then do
            let _ ← next
            let k ← kind
            if k = .key || k = .value || k = .blockEnd then emptyScalar v.start.next
            else node true true fuel
          else emptyScalar v.start)
        let rest ← blockEntries start fuel
        pure ((key, value) :: rest)
      else
        refuse .collections (some "while parsing a block mapping")
          ("expected <block end>, but found " ++ Text.quoted k.name) t.start

/-- The items of a flow sequence up to its closing bracket. -/
def flowItems (start : Mark) (first : Bool) : Nat → ParseM (List NodeId)
  | 0 => pure []
  | fuel + 1 => do
    let t ← peek
    if t.kind = .flowSequenceEnd then
      let _ ← next
      pure []
    else
      if !first then
        if t.kind = .flowEntry then
          let _ ← next
        else
          refuse .collections (some "while parsing a flow sequence")
            ("expected ',' or ']', but got " ++ Text.quoted t.kind.name) t.start
      let t ← peek
      if t.kind = .key then
        let id ← add ⟨Tag.map, .mapping [], t.start⟩
        let _ ← next
        let k ← kind
        let key ← if k = .value || k = .flowEntry || k = .flowSequenceEnd
          then emptyScalar t.start.next else node false false fuel
        let v ← peek
        let value ← (
          if v.kind = .value then do
            let _ ← next
            let k ← kind
            if k = .flowEntry || k = .flowSequenceEnd then emptyScalar v.start.next
            else node false false fuel
          else emptyScalar v.start)
        fill id (.mapping [(key, value)])
        let rest ← flowItems start false fuel
        pure (id :: rest)
      else if t.kind = .flowSequenceEnd then
        let _ ← next
        pure []
      else
        let id ← node false false fuel
        let rest ← flowItems start false fuel
        pure (id :: rest)

/-- The entries of a flow mapping up to its closing brace. -/
def flowEntries (start : Mark) (first : Bool) : Nat → ParseM (List (NodeId × NodeId))
  | 0 => pure []
  | fuel + 1 => do
    let t ← peek
    if t.kind = .flowMappingEnd then
      let _ ← next
      pure []
    else
      if !first then
        if t.kind = .flowEntry then
          let _ ← next
        else
          refuse .collections (some "while parsing a flow mapping")
            ("expected ',' or '\x7d', but got " ++ Text.quoted t.kind.name) t.start
      let t ← peek
      if t.kind = .key then
        let _ ← next
        let k ← kind
        let key ← if k = .value || k = .flowEntry || k = .flowMappingEnd
          then emptyScalar t.start.next else node false false fuel
        let v ← peek
        let value ← (
          if v.kind = .value then do
            let _ ← next
            let k ← kind
            if k = .flowEntry || k = .flowMappingEnd then emptyScalar v.start.next
            else node false false fuel
          else emptyScalar v.start)
        let rest ← flowEntries start false fuel
        pure ((key, value) :: rest)
      else if t.kind = .flowMappingEnd then
        let _ ← next
        pure []
      else
        let key ← node false false fuel
        let value ← emptyScalar (← peek).start
        let rest ← flowEntries start false fuel
        pure ((key, value) :: rest)

end

/-- The tag handles that every document has. -/
def coreHandles : List (String × String) := [("!", "!"), ("!!", "tag:yaml.org,2002:")]

/-- Reads directives, `version` telling whether one gave the version: the tag handles. -/
def directives : Nat → Bool → List (String × String) → ParseM (List (String × String))
  | 0, _, handles => pure handles
  | fuel + 1, version, handles => do
    let t ← peek
    match t.kind with
    | .directive d =>
      let _ ← next
      match d with
      | .version major _ =>
        if version then refuse .collections none "found duplicate YAML directive" t.start
        else if major ≠ 1 then
          refuse .collections none "found incompatible YAML document (version 1.* is required)" t.start
        else directives fuel true handles
      | .tag handle expansion =>
        if (handles.lookup handle).isSome then
          refuse .collections none ("duplicate tag handle " ++ Text.quoted handle) t.start
        else directives fuel version (handles ++ [(handle, expansion)])
      | .other _ => directives fuel version handles
    | _ => pure handles

/-- Passes over the ends of documents. -/
def documentEnds : Nat → ParseM Unit
  | 0 => pure ()
  | fuel + 1 => do
    if (← kind) = .documentEnd then
      let _ ← next
      documentEnds fuel
    else pure ()

/-- Reads the start of a document that has directives or a marker: where it starts, `none` at the
end of the stream. -/
def explicitStart (fuel : Nat) : ParseM (Option Mark) := do
  documentEnds fuel
  let first ← peek
  if first.kind = .streamEnd then pure none
  else
    let handles ← directives fuel false []
    let t ← peek
    if t.kind ≠ .documentStart then
      refuse .collections none
        ("expected '<document start>', but found " ++ Text.quoted t.kind.name) t.start
    else
      let _ ← next
      modify fun s => { s with handles := handles ++ coreHandles }
      pure (some first.start)

def isDirective : TokenKind → Bool
  | .directive _ => true
  | _ => false

/-- Reads the root of the only document of a stream, `none` if the stream is empty. -/
def document (fuel : Nat) : ParseM (Option NodeId) := do
  let k ← kind
  let root ← (
    if isDirective k || k = .documentStart || k = .streamEnd then do
      if (← explicitStart fuel).isSome then
        let t ← peek
        if isDirective t.kind || t.kind = .documentStart || t.kind = .documentEnd ||
            t.kind = .streamEnd then
          some <$> emptyScalar t.start
        else some <$> node true false fuel
      else pure none
    else do
      modify fun s => { s with handles := coreHandles }
      some <$> node true false fuel)
  match root with
  | none => pure none
  | some id =>
    if (← kind) = .documentEnd then let _ ← next
    match ← explicitStart fuel with
    | none => pure (some id)
    | some start =>
      refuse .graph (some "expected a single document in the stream") "but found another document"
        start

end Parse

/-- A character that no text may hold: controls other than tab and line ends, and the last code
points of the basic plane. -/
def isUnacceptable (c : Char) : Bool :=
  let n := c.toNat
  !(n = 9 || n = 10 || n = 13 || (0x20 ≤ n && n ≤ 0x7e) || n = 0x85 || (0xa0 ≤ n && n ≤ 0xd7ff) ||
    (0xe000 ≤ n && n ≤ 0xfffd) || 0x10000 ≤ n)

/-- The table of nodes of a text and the root of its document, `none` if it holds no document. -/
def readNodes (s : String) : Except LoadError (Array Node × Option NodeId) :=
  let cs := s.toList
  match cs.find? isUnacceptable with
  | some c =>
    .error (.refused ⟨.characters, none,
      "unacceptable character #x" ++ String.ofList (Text.hexPad 4 c.toNat) ++
        ": special characters are not allowed", none⟩)
  | none =>
    let (ts, refusal) := tokens cs
    match (Parse.document (2 * ts.length + 8)).run ⟨ts, refusal, [], [], #[]⟩ with
    | .error e => .error e
    | .ok (root, s) => .ok (s.nodes, root)

end Storybind.Yaml
