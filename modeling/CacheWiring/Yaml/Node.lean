import CacheWiring.Yaml.Tag

namespace CacheWiring.Yaml

inductive Content where
  | scalar (text : Text)
  | sequence (items : List Nat)
  | mapping (entries : List (Nat × Nat))

structure Node where
  tag : Tag
  content : Content

abbrev Nodes := Array Node

/-- All nodes of a document, and the place of the outermost one. -/
structure Document where
  nodes : Nodes
  root : Nat

namespace Node

/-- A key, value or item that is left out. -/
def nothing : Node := ⟨.null, .scalar ""⟩

def isMapping (node : Node) : Bool :=
  match node.content with
  | .mapping _ => true
  | _ => false

def entries (node : Node) : List (Nat × Nat) :=
  match node.content with
  | .mapping entries => entries
  | _ => []

end Node

namespace Nodes

def node (nodes : Nodes) (place : Nat) : Node := (nodes[place]?).getD .nothing

def hasTag (nodes : Nodes) (tag : Tag) (place : Nat) : Bool := (nodes.node place).tag == tag

def setTag (nodes : Nodes) (tag : Tag) (place : Nat) : Nodes :=
  nodes.modify place fun node => { node with tag }

def setContent (nodes : Nodes) (content : Content) (place : Nat) : Nodes :=
  nodes.modify place fun node => { node with content }

end Nodes

end CacheWiring.Yaml
