import CacheWiring.Yaml.Node.Reader
import CacheWiring.Yaml.Part
import CacheWiring.Yaml.Token.Lexer

namespace CacheWiring.Yaml

namespace Part

def inside : Part → List Nat
  | .scalar _ | .set _ => []
  | .list items => items
  | .dict entries => entries.map (·.2)
  | .pair first second => [first, second]

def value (valueOf : Nat → Value) : Part → Value
  | .scalar s => .scalar s
  | .list items => .list (items.map valueOf)
  | .dict entries => .dict (entries.map fun (key, place) => (key, valueOf place))
  | .pair first second => .pair (valueOf first) (valueOf second)
  | .set keys => .set keys

end Part

abbrev Parts := Array (Option Part)

abbrev Values := Array (Option Value)

namespace Parts

/-- For every place the places of the parts that hold it, as often as they do. -/
def holders (parts : Parts) : Array (List Nat) :=
  parts.zipIdx.foldl (fun holders (part, place) =>
    ((part.map Part.inside).getD []).foldl (fun holders held => holders.modify held (place :: ·))
      holders) (Array.replicate parts.size [])

def valueAt (parts : Parts) (valueOf : Nat → Value) (place : Nat) : Value :=
  match (parts[place]?).getD none with
  | some part => part.value valueOf
  | none => .null

/-- Finds values from the innermost parts outwards: a part is ready when there are values for all
that it holds. `missing` counts those without one. -/
def settle (parts : Parts) (holders : Array (List Nat)) :
    Nat → List Nat → Array Nat → Values → Values
  | 0, _, _, values => values
  | _, [], _, values => values
  | fuel + 1, place :: ready, missing, values =>
    let value := parts.valueAt (fun held => ((values[held]?).getD none).getD .null) place
    let (ready, missing) := ((holders[place]?).getD []).foldl (fun (ready, missing) holder =>
      let left := ((missing[holder]?).getD 0) - 1
      (if left = 0 then holder :: ready else ready, missing.setIfInBounds holder left))
      (ready, missing)
    settle parts holders fuel ready missing (values.setIfInBounds place (some value))

/-- The values of all parts that do not lead to themselves. -/
def settled (parts : Parts) : Values :=
  let missing := parts.map fun part => ((part.map Part.inside).getD []).length
  let ready := (List.range parts.size).filter fun place => (missing[place]?).getD 0 == 0
  settle parts parts.holders (parts.size + 1) ready missing (Array.replicate parts.size none)

/-- The value of a part, a member of the knot of all that did not settle unless it did itself. -/
def value (parts : Parts) (root : Nat) : Value :=
  let values := parts.settled
  let loose := (List.range parts.size).filter fun place =>
    ((parts[place]?).getD none).isSome && ((values[place]?).getD none).isNone
  let ranks := loose.zipIdx.foldl (fun ranks (place, rank) => ranks.setIfInBounds place rank)
    (Array.replicate parts.size 0)
  let valueOf (place : Nat) : Value :=
    ((values[place]?).getD none).getD (.link ((ranks[place]?).getD 0))
  Value.tied (loose.map (parts.valueAt valueOf)) (valueOf root)

end Parts

def Document.value (d : Document) : Except Fault Value := do
  let parts : Parts ← d.parts
  return parts.value d.root

/-- The value of the document in a text, null when there is none. -/
def read (source : Source) : Except Fault Value := do
  match ← Document.ofTokens? (Token.ofSource source) with
  | some document => document.value
  | none => return .null

end CacheWiring.Yaml
