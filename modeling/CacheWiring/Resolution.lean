import CacheWiring.Cache.Engines
import CacheWiring.Directory.Clusters
import CacheWiring.Directory.Stacks

namespace CacheWiring

/-- The explicit expiration, else the default one, else none at all. -/
def resolveExpiration (explicit default : Value) : Value :=
  if !explicit.isNull then explicit
  else if !default.isNull then default
  else .int 0

/-- A cache to be resolved: its name, the cluster behind it, and its own expiration. -/
structure Target where
  logicalName : Value
  clusterId : Value
  expiration : Value

structure Resolver where
  engines : Engines
  directory : ClusterDirectory
  stack : Option StackDirectory

namespace Resolver

def declaredTarget (c : ClusterDeclaration) : Target := ⟨c.name, c.name, c.expiration⟩

def stackTarget (r : StackResource) : Target := ⟨r.logicalId, r.physicalId, .null⟩

/-- The cache clusters of a stack, each under its logical id, unless one has no physical id. -/
def stackTargets (resources : List StackResource) : Except Fault (List Target) :=
  match resources.find? fun r => !r.physicalId.truthy with
  | some r => .error (.resolution (.noPhysicalId r.logicalId))
  | none => .ok (resources.map stackTarget)

/-- Declared clusters make the stack irrelevant. -/
def targets (resolver : Resolver) (declared : List ClusterDeclaration) : Program (List Target) :=
  if !declared.isEmpty then return declared.map declaredTarget
  else
    match resolver.stack with
    | none => Program.fail (.resolution .noClustersDeclared)
    | some stack => do
      let (resources, _) ← stack.resourcesByType stack.clusterType
      Program.log .info .resolver
        ("found " ++ toString resources.length ++ " cache cluster(s) in stack")
      Program.ofExcept (stackTargets resources)

/-- A directory has to know a cluster exactly once. -/
def single (id : Value) : List ClusterDescription → Except Fault ClusterDescription
  | [] => .error (.resolution (.clusterNotFound id))
  | [description] => .ok description
  | several => .error (.resolution (.severalClusters id several.length))

/-- A port that is missing or zero becomes the engine's own. -/
def withPort (port : Int) (n : NodeEndpoint) : NodeEndpoint := ⟨n.host, n.port.orElse (.int port)⟩

def endpointOf (engines : Engines) (id : Value) (d : ClusterDescription) :
    Except Fault ClusterEndpoint := do
  match ← engines.find? d.engine with
  | none => throw (.unsupportedEngine id d.engine engines.supported)
  | some engine =>
    match d.configurationEndpoint with
    | none => throw (.resolution (.noConfigurationEndpoint id))
    | some endpoint =>
      let main := withPort engine.defaultPort endpoint
      return ⟨main.host, main.port, d.engine, d.nodes.map (withPort engine.defaultPort)⟩

def resolveCluster (resolver : Resolver) (id : Value) : Program ClusterEndpoint := do
  let matched ← resolver.directory.describe id true
  let description ← Program.ofExcept (single id matched)
  Program.ofExcept (endpointOf resolver.engines id description)

/-- The log shows whole seconds. -/
def resolvedMessage (target : Target) (endpoint : ClusterEndpoint) (seconds : Int) : Text :=
  "resolved cache " ++ target.logicalName.text ++ " (cluster " ++ target.clusterId.text ++ ") to "
    ++ endpoint.host.text ++ ":" ++ endpoint.port.text ++ ", engine=" ++ endpoint.engine.text
    ++ ", expiration=" ++ toString seconds ++ "s"

/-- The log is taken to form each message at once and to pass on an error in that, so an expiration
has to be a number of seconds to be reported. -/
def resolveTarget (resolver : Resolver) (default : Value) (target : Target) :
    Program ResolvedCluster := do
  let endpoint ← resolver.resolveCluster target.clusterId
  let expiration := resolveExpiration target.expiration default
  let seconds ← Program.ofExcept expiration.whole
  Program.log .info .resolver (resolvedMessage target endpoint seconds)
  return ⟨target.logicalName, endpoint, expiration⟩

def resolve (resolver : Resolver) (declared : List ClusterDeclaration) (default : Value) :
    Program (List ResolvedCluster) := do
  Program.each (resolver.resolveTarget default) (← resolver.targets declared)

end Resolver

end CacheWiring
