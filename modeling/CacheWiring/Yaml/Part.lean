import CacheWiring.Value.Basic
import CacheWiring.Yaml.Node.Merge
import CacheWiring.Yaml.Scalars

namespace CacheWiring.Yaml

inductive Part where
  | scalar (s : Scalar)
  | list (items : List Nat)
  | dict (entries : List (Scalar × Nat))
  | pair (first second : Nat)
  | set (keys : List Scalar)

/-- A document whose parts are being made. The parts of nodes have the places of the nodes, and
pairs come after them. -/
structure Making where
  nodes : Nodes
  parts : Array (Option Part)
  /-- Collections that have been met, in their order. -/
  met : Array Nat
  /-- A bound on merge keys. -/
  merges : Nat

abbrev Maker := StateT Making (Except Fault)

namespace Maker

def node (place : Nat) : Maker Node := fun s => .ok (s.nodes.node place, s)

def part? (place : Nat) : Maker (Option Part) := fun s => .ok ((s.parts[place]?).getD none, s)

def put (place : Nat) (part : Part) : Maker Unit :=
  modify fun s => { s with parts := s.parts.setIfInBounds place (some part) }

/-- How many nodes may be gone through to find the text of a scalar. -/
def maxDefaults : Nat := 983

/-- The text of a scalar, or of the default value of a mapping that stands in place of one. -/
def textAt (nodes : Nodes) : Nat → Nat → Except Fault Text
  | 0, _ => .error (.tooDeep .collection)
  | fuel + 1, place =>
    match (nodes.node place).content with
    | .scalar text => .ok text
    | .sequence _ => .error .notYaml
    | .mapping entries =>
      match entries.find? fun entry => nodes.hasTag .value entry.1 with
      | some (_, value) => textAt nodes fuel value
      | none => .error .notYaml

/-- The scalar at a place; a date has to be written out there itself. -/
def scalarAt (nodes : Nodes) (place : Nat) : Except Fault Scalar := do
  let node := nodes.node place
  if node.tag.isScalar then
    let text ← textAt nodes maxDefaults place
    if node.tag = .timestamp ∧ node.isMapping then throw .wrongType
    taggedScalar place node.tag text
  else throw .notYaml

def meet (place : Nat) (empty : Part) : Maker Unit := do
  put place empty
  modify fun s => { s with met := s.met.push place }

def begin (place : Nat) : Maker Unit := do
  if (← part? place).isSome then return
  match (← node place).tag with
  | .seq | .pairs => meet place (.list [])
  | .map => meet place (.dict [])
  | .set => meet place (.set [])
  | _ => put place (.scalar (← scalarAt (← get).nodes place))

/-- The scalar of a key; collections are no keys. -/
def key (place : Nat) : Maker Scalar := do
  begin place
  match ← part? place with
  | some (.scalar s) => return s
  | _ => throw .notYaml

def items (place : Nat) : Maker (List Nat) := do
  match (← node place).content with
  | .sequence items => return items
  | _ => throw .notYaml

def entries (place : Nat) : Maker (List (Scalar × Nat)) := do
  if !(← node place).isMapping then throw .notYaml
  let s ← get
  let nodes ← s.nodes.merged s.merges Nodes.maxMerges place []
  set { s with nodes }
  (nodes.node place).entries.mapM fun (keyPlace, value) => do
    let key ← key keyPlace
    begin value
    return (key, value)

def pair (place : Nat) : Maker Nat := do
  match (← node place).entries with
  | [(first, second)] =>
    begin first
    begin second
    modifyGet fun s => (s.parts.size, { s with parts := s.parts.push (some (.pair first second)) })
  | _ => throw .notYaml

def complete (place : Nat) : Maker Unit := do
  match (← node place).tag with
  | .seq =>
    let items ← items place
    items.forM begin
    put place (.list items)
  | .pairs => put place (.list (← (← items place).mapM pair))
  | .set => put place (.set ((Value.distinct (← entries place)).map (·.1)))
  | _ => put place (.dict (Value.distinct (← entries place)))

/-- Makes the collections from a certain one on in the order in which they were met. -/
def completeFrom : Nat → Nat → Maker Unit
  | 0, _ => return
  | fuel + 1, next => do
    match (← get).met[next]? with
    | some place =>
      complete place
      completeFrom fuel (next + 1)
    | none => return

end Maker

/-- The parts of a document, of which only those are there that its root leads to. -/
def Document.parts (d : Document) : Except Fault (Array (Option Part)) := do
  let start : Making :=
    { nodes := d.nodes, parts := Array.replicate d.nodes.size none, met := #[],
      merges := d.nodes.entryCount + 1 }
  let make : Maker Unit := do
    Maker.begin d.root
    Maker.completeFrom (d.nodes.size + 1) 0
  let (_, s) ← make.run start
  return s.parts

end CacheWiring.Yaml
