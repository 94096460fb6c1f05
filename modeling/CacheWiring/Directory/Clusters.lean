import CacheWiring.Program.Basic

namespace CacheWiring

/-- Where clusters are looked up. A Pulumi directory asks through a provider, if it has one. -/
inductive ClusterDirectory where
  | supplied
  | elastiCache
  | pulumi (provider : Value)

namespace ClusterDirectory

def portOf (port : Value) : Except Fault Value :=
  (port.orElse (.int 0)).toInt.map .int

/-- The endpoint in a cloud answer; there is none without an address. -/
def endpointOf (raw : Value) : Except Fault (Option NodeEndpoint) := do
  if !raw.truthy then return none
  let address ← raw.field "Address"
  if !address.truthy then return none
  let port ← portOf (← raw.field "Port")
  return some ⟨address, port⟩

def nodesOf (cluster : Value) : Except Fault (List NodeEndpoint) := do
  let nodes ← (← cluster.fieldOr "CacheNodes" (.list [])).members
  let endpoints ← nodes.mapM fun node => do endpointOf (← node.field "Endpoint")
  return endpoints.filterMap id

def describeAnswer (id cluster : Value) : Except Fault ClusterDescription := do
  let nodes ← nodesOf cluster
  let name ← cluster.fieldOr "CacheClusterId" id
  let engine ← cluster.fieldOr "Engine" (.str "")
  let endpoint ← endpointOf (← cluster.field "ConfigurationEndpoint")
  return ⟨name, engine, endpoint, nodes⟩

def describeAll (id answer : Value) : Except Fault (List ClusterDescription) := do
  let clusters ← (← answer.fieldOr "CacheClusters" (.list [])).members
  clusters.mapM (describeAnswer id)

/-- The codes by which the cloud provider says that a cluster does not exist. -/
def notFoundCodes : List Text := ["CacheClusterNotFound", "CacheClusterNotFoundFault"]

def isNotFound : Fault → Bool
  | .refused refusal =>
    match refusal.code with
    | some code => notFoundCodes.any code.isStr
    | none => false
  | _ => false

def describeInCloud (id : Value) (withNodes : Bool) : Program (List ClusterDescription) := do
  Program.log .debug .elastiCache ("describing cache cluster " ++ id.text)
  let answer : Except Fault Value ←
    (Program.request (.describeCacheClusters id withNodes)).attempt
  match answer with
  | .ok answer => Program.ofExcept (describeAll id answer)
  | .error fault => if isNotFound fault then return [] else Program.fail fault

def contains (text part : Text) : Bool :=
  match text with
  | [] => part.isEmpty
  | c :: rest => part.isPrefixOf (c :: rest) || contains rest part

/-- Lookup failures are told apart by their texts. -/
def notFoundMarkers : List Text := ["CacheClusterNotFound", "not found"]

def saysNotFound (fault : Fault) : Bool := notFoundMarkers.any (contains fault.message)

def lookupNode (node : LookupNode) : Except Fault (Option NodeEndpoint) := do
  if !node.address.truthy then return none
  return some ⟨node.address, ← portOf node.port⟩

def describeLookup (asked : Value) (found : Lookup) : Except Fault ClusterDescription := do
  let endpoint ← lookupNode ⟨found.address, found.port⟩
  let nodes ← found.nodes.mapM lookupNode
  return ⟨found.id.orElse asked, found.engine, endpoint, nodes.filterMap id⟩

def describeThroughPulumi (provider id : Value) : Program (List ClusterDescription) := do
  Program.log .debug .pulumi ("looking up cache cluster " ++ id.text)
  let answer : Except Fault Lookup ←
    (Program.request (.lookUpCluster id (provider.orElse .null))).rescue
  match answer with
  | .ok found => (fun description => [description]) <$> Program.ofExcept (describeLookup id found)
  | .error fault => if saysNotFound fault then return [] else Program.fail fault

def describe (directory : ClusterDirectory) (id : Value) (withNodes : Bool) :
    Program (List ClusterDescription) :=
  match directory with
  | .supplied => Program.request (.describe id withNodes)
  | .elastiCache => describeInCloud id withNodes
  | .pulumi provider => describeThroughPulumi provider id

def forRegion (region : Value) : Program ClusterDirectory := do
  let _ : Unit ← Program.request (.openCloud .elastiCache region)
  return .elastiCache

end ClusterDirectory

end CacheWiring
