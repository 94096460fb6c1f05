import CacheWiring.Fault
import CacheWiring.Yaml.Node

namespace CacheWiring.Yaml.Nodes

abbrev Entries := List (Nat × Nat)

/-- The first entry of a mapping whose key has the merge tag, and the nodes without that entry. -/
def takeMerge (nodes : Nodes) (place : Nat) : Option (Nat × Nodes) :=
  let entries := (nodes.node place).entries
  let isOwn (entry : Nat × Nat) : Bool := !nodes.hasTag .merge entry.1
  match entries.dropWhile isOwn with
  | [] => none
  | (_, source) :: rest =>
    some (source, nodes.setContent (.mapping (entries.takeWhile isOwn ++ rest)) place)

/-- As a key, the sign for a default value is an ordinary text. -/
def plainKeys (nodes : Nodes) (entries : Entries) : Nodes :=
  entries.foldl (fun nodes entry =>
    if nodes.hasTag .value entry.1 then nodes.setTag .str entry.1 else nodes) nodes

/-- Puts gathered entries in front of those of a mapping. -/
def putInFront (nodes : Nodes) (place : Nat) (gathered : Entries) : Nodes :=
  let own := (nodes.node place).entries
  (nodes.plainKeys own).setContent (.mapping (gathered ++ own)) place

/-- How many mappings may be merged into one another. -/
def maxMerges : Nat := 986

/-- A mapping with its merge keys carried out, given the entries gathered from those before, when
mappings may be merged into it over `room - 1` levels. Every step takes a merge key away, so their
number bounds the steps. Of several mappings in one value the first has precedence, so its entries
come last. -/
def merged : Nat → Nat → Nat → Entries → Nodes → Except Fault Nodes
  | _, 0, _, _, _ => .error (.tooDeep .merge)
  | 0, _, place, gathered, nodes => .ok (nodes.putInFront place gathered)
  | fuel + 1, room + 1, place, gathered, nodes =>
    match nodes.takeMerge place with
    | none => .ok (nodes.putInFront place gathered)
    | some (source, nodes) =>
      match (nodes.node source).content with
      | .mapping _ => do
        let nodes ← merged fuel room source [] nodes
        merged fuel (room + 1) place (gathered ++ (nodes.node source).entries) nodes
      | .sequence items => do
        let (parts, nodes) ← items.foldlM (fun (parts, nodes) item =>
          if (nodes.node item).isMapping then do
            let nodes ← merged fuel room item [] nodes
            return ((nodes.node item).entries :: parts, nodes)
          else throw .notYaml) (([], nodes) : List Entries × Nodes)
        merged fuel (room + 1) place (gathered ++ parts.flatten) nodes
      | .scalar _ => throw .notYaml

/-- How many entries there are in all mappings. -/
def entryCount (nodes : Nodes) : Nat :=
  nodes.foldl (fun count node => count + node.entries.length) 0

end CacheWiring.Yaml.Nodes
