import Storybind.Value.Key
import Storybind.Yaml.Atom
import Storybind.Yaml.Node

/-!
The value of a document. Collections are filled in the order in which they are met, level by level,
so that of two faults the one nearer to the root is reported; merge keys put the entries of other
mappings before those of their own. The value is then put together from the root.
-/

namespace Storybind.Yaml

/-- What a node denotes, its parts by position. -/
inductive Shape where
  | scalar (s : Scalar)
  | list (items : List NodeId)
  | mapping (entries : List (Scalar × NodeId))
  | set (members : List Scalar)
  | pairs (items : List (NodeId × NodeId))

/-- The nodes, what is known of them, and the collections still to be filled. -/
structure Build where
  nodes : Array Node
  shapes : Array (Option Shape)
  queue : List NodeId

abbrev BuildM := StateT Build (Except LoadError)

namespace Build

def refuse {α : Type} (context : Option String) (problem : String) (mark : Mark) : BuildM α :=
  throw (.refused ⟨.values, context, problem, some mark⟩)

/-- The node at a position. -/
def nodeAt (id : NodeId) : BuildM Node := do
  match (← get).nodes[id]? with
  | some n => pure n
  | none => pure ⟨Tag.null, .scalar "", ⟨0, 0⟩⟩

def setShape (id : NodeId) (shape : Shape) : BuildM Unit :=
  modify fun s => { s with shapes := s.shapes.modify id fun _ => some shape }

/-- The written form of a node that a scalar is made from: its own, or that of the entry of a
mapping that stands for the mapping's value. -/
def written (node : Node) : Nat → BuildM String
  | 0 => refuse none "expected a scalar node, but found mapping" node.start
  | fuel + 1 =>
    match node.content with
    | .scalar s => pure s
    | .sequence _ => refuse none "expected a scalar node, but found sequence" node.start
    | .mapping entries => do
      let keys ← entries.mapM fun e => do return ((← nodeAt e.1).tag, e.2)
      match keys.find? fun k => k.1 = Tag.value with
      | some k => written (← nodeAt k.2) fuel
      | none => refuse none "expected a scalar node, but found mapping" node.start

def lift {α : Type} (r : Except ScalarError α) : BuildM α :=
  match r with
  | .ok a => pure a
  | .error e => throw (.scalar e)

/-- The scalar of a node, by its tag. -/
def scalarOf (id : NodeId) (node : Node) : BuildM Scalar := do
  let text : BuildM String := do written node ((← get).nodes.size + 1)
  if node.tag = Tag.null then
    let _ ← text
    pure .null
  else if node.tag = Tag.bool then return .bool (← lift (truthOf (← text)))
  else if node.tag = Tag.int then return .int (← lift (intOf (← text)))
  else if node.tag = Tag.float then return .float (← lift (floatOf (← text)))
  else if node.tag = Tag.str then return .text (← text)
  else if node.tag = Tag.timestamp then
    let s ← text
    match node.content with
    | .scalar _ => lift (timestampOf (id + 1) s)
    | _ => throw (.scalar .noText)
  else if node.tag = Tag.binary then
    match binaryOf (← text) with
    | .ok b => pure (.bytes b)
    | .error problem => refuse none problem node.start
  else
    refuse none ("could not determine a constructor for the tag " ++ Text.quoted node.tag) node.start

/-- The tags of collections. -/
def collectionTags : List Tag := [Tag.seq, Tag.map, Tag.set, Tag.omap, Tag.pairs]

/-- Meets a node: a scalar is made at once, a collection is put at the end of the queue. -/
def meet (id : NodeId) : BuildM Unit := do
  match (← get).shapes[id]? with
  | some (some _) => pure ()
  | _ =>
    let node ← nodeAt id
    if collectionTags.contains node.tag then
      setShape id (.list [])
      modify fun s => { s with queue := s.queue ++ [id] }
    else setShape id (.scalar (← scalarOf id node))

/-- The scalar that a met node denotes, `none` for a collection. -/
def scalarAt (id : NodeId) : BuildM (Option Scalar) := do
  match (← get).shapes[id]? with
  | some (some (.scalar s)) => pure (some s)
  | _ => pure none

/-- Replaces the merge keys of a mapping by the entries they bring in. -/
def flatten (id : NodeId) : Nat → BuildM (List (NodeId × NodeId))
  | 0 => pure []
  | fuel + 1 => do
    let node ← nodeAt id
    match node.content with
    | .mapping entries =>
      let tagged ← entries.mapM fun e => do return ((← nodeAt e.1).tag, e)
      let own := (tagged.filter fun e => e.1 ≠ Tag.merge).map (·.2)
      let merges := (tagged.filter fun e => e.1 = Tag.merge).map (·.2)
      for e in tagged do
        if e.1 = Tag.value then
          modify fun s =>
            { s with nodes := s.nodes.modify e.2.1 fun n => { n with tag := Tag.str } }
      if merges.isEmpty then pure own
      else
        modify fun s =>
          { s with nodes := s.nodes.modify id fun n => { n with content := .mapping own } }
        let mut merged : List (NodeId × NodeId) := []
        for e in merges do
          let value ← nodeAt e.2
          match value.content with
          | .mapping _ => merged := merged ++ (← flatten e.2 fuel)
          | .sequence items =>
            let mut parts : List (List (NodeId × NodeId)) := []
            for item in items do
              let sub ← nodeAt item
              match sub.content with
              | .mapping _ => parts := (← flatten item fuel) :: parts
              | c =>
                refuse (some "while constructing a mapping")
                  ("expected a mapping for merging, but found " ++ c.kindName) sub.start
            merged := merged ++ parts.flatten
          | c =>
            refuse (some "while constructing a mapping")
              ("expected a mapping or list of mappings for merging, but found " ++ c.kindName)
              value.start
        let all := merged ++ own
        modify fun s =>
          { s with nodes := s.nodes.modify id fun n => { n with content := .mapping all } }
        pure all
    | _ => pure []

/-- The entries of a mapping, in order, keys that repeat included. -/
def mappingEntries (id : NodeId) (node : Node) : BuildM (List (Scalar × NodeId)) := do
  match node.content with
  | .mapping _ =>
    let entries ← flatten id ((← get).nodes.size + 1)
    entries.mapM fun e => do
      meet e.1
      match ← scalarAt e.1 with
      | none =>
        refuse (some "while constructing a mapping") "found unhashable key" (← nodeAt e.1).start
      | some key =>
        meet e.2
        pure (key, e.2)
  | c => refuse none ("expected a mapping node, but found " ++ c.kindName) node.start

/-- The pairs of a sequence of mappings with one entry each. -/
def pairItems (context : String) (node : Node) : BuildM (List (NodeId × NodeId)) := do
  match node.content with
  | .sequence items =>
    items.mapM fun item => do
      let sub ← nodeAt item
      match sub.content with
      | .mapping [(k, v)] =>
        meet k
        meet v
        pure (k, v)
      | .mapping entries =>
        refuse (some context)
          ("expected a single mapping item, but found " ++ toString entries.length ++ " items")
          sub.start
      | c =>
        refuse (some context) ("expected a mapping of length 1, but found " ++ c.kindName) sub.start
  | c => refuse (some context) ("expected a sequence, but found " ++ c.kindName) node.start

/-- Fills a collection. -/
def fillIn (id : NodeId) : BuildM Unit := do
  let node ← nodeAt id
  if node.tag = Tag.seq then
    match node.content with
    | .sequence items =>
      for item in items do meet item
      setShape id (.list items)
    | c => refuse none ("expected a sequence node, but found " ++ c.kindName) node.start
  else if node.tag = Tag.map then setShape id (.mapping (← mappingEntries id node))
  else if node.tag = Tag.set then
    setShape id (.set ((← mappingEntries id node).map (·.1)))
  else if node.tag = Tag.omap then
    setShape id (.pairs (← pairItems "while constructing an ordered map" node))
  else setShape id (.pairs (← pairItems "while constructing pairs" node))

/-- Fills the collections of the queue. -/
def fillAll : Nat → BuildM Unit
  | 0 => pure ()
  | fuel + 1 => do
    match (← get).queue with
    | [] => pure ()
    | id :: rest =>
      modify fun s => { s with queue := rest }
      fillIn id
      fillAll fuel

end Build

/-- The members of a set, the first of equal ones. -/
def distinct (members : List Scalar) : List Scalar :=
  members.foldl (fun done s => if done.any (·.sameKey s) then done else done ++ [s]) []

/-- Puts a value together; `path` are the nodes around it, which are entered again at most `again`
times. -/
def assemble (shapes : Array (Option Shape)) : Nat → Nat → List NodeId → NodeId → Value
  | 0, _, _, id => .back (id + 1)
  | fuel + 1, again, path, id =>
    let label := id + 1
    match shapes[id]? with
    | some (some (.scalar s)) => .scalar s
    | some (some (.set members)) => .set label (distinct members)
    | some (some shape) =>
      let entered := path.contains id
      if entered && again = 0 then .back label
      else
        let part := assemble shapes fuel (if entered then again - 1 else again) (id :: path)
        match shape with
        | .list items => .list label (items.map part)
        | .mapping entries => .mapping label (Entries.ofPairs (entries.map fun e => (e.1, part e.2)))
        | .pairs items => .list label (items.map fun p => .pair (part p.1) (part p.2))
        | .scalar s => .scalar s
        | .set members => .set label members
    | _ => .null

mutual

/-- The number of places where a value stands for a container around it. -/
def backs : Value → Nat
  | .back _ => 1
  | .list _ items => itemBacks items
  | .mapping _ entries => entryBacks entries
  | .pair a b => backs a + backs b
  | _ => 0

def itemBacks : List Value → Nat
  | [] => 0
  | v :: rest => backs v + itemBacks rest

def entryBacks : List (Scalar × Value) → Nat
  | [] => 0
  | (_, v) :: rest => backs v + entryBacks rest

end

/-- How many times in a row containers are entered again through themselves: more often where there
are few places at which that happens. -/
def entrances (places : Nat) : Nat :=
  if places = 0 then 0 else if places ≤ 6 then 4 else if places ≤ 20 then 3 else 2

/-- The value of a node. A container that holds itself is opened a few times, as deep as anything
looks into it. -/
def valueOf (shapes : Array (Option Shape)) (id : NodeId) : Value :=
  let v := assemble shapes (shapes.size + 1) 0 [] id
  match entrances (backs v) with
  | 0 => v
  | again => assemble shapes ((shapes.size + 1) * (again + 1)) again [] id

/-- The value of a text that holds one document or none. -/
def load (s : String) : Except LoadError Value := do
  let (nodes, root) ← readNodes s
  match root with
  | none => pure .null
  | some id =>
    let start : Build := ⟨nodes, Array.replicate nodes.size none, []⟩
    let (_, b) ← (do Build.meet id; Build.fillAll (nodes.size + 1) : BuildM Unit).run start
    pure (valueOf b.shapes id)

end Storybind.Yaml
