import CacheWiring.Cache.Registry
import CacheWiring.Resolution

namespace CacheWiring

structure CachingContext where
  configuration : Configuration
  registry : Registry
  resolved : List ResolvedCluster
  closed : Bool

/-- Directories that a caller brings along in place of the configured ones. -/
structure Supplied where
  clusters : Option ClusterDirectory
  stack : Option StackDirectory

namespace Configuration

def clusterDirectory (c : Configuration) (given : Option ClusterDirectory) :
    Program ClusterDirectory :=
  match given with
  | some directory => return directory
  | none => ClusterDirectory.forRegion c.region

/-- The stack given, or the configured one when no clusters are declared. -/
def stackDirectory (c : Configuration) (given : Option StackDirectory) :
    Program (Option StackDirectory) :=
  match given, c.clusters, c.stack with
  | none, [], some settings => some <$> StackDirectory.ofSettings settings c.region
  | _, _, _ => return given

def resolveClusters (c : Configuration) (engines : Engines) (given : Supplied) :
    Program (List ResolvedCluster) := do
  let directory ← c.clusterDirectory given.clusters
  let stack ← c.stackDirectory given.stack
  (Resolver.mk engines directory stack).resolve c.clusters c.defaultExpiration

/-- Resolves the declared caches and binds them; any failure ends the startup. -/
def start (c : Configuration) (engines : Engines) (given : Supplied) :
    Program CachingContext := do
  let resolved ← c.resolveClusters engines given
  let registry ← Registry.build engines resolved c.client
  return ⟨c, registry, resolved, false⟩

end Configuration

namespace CachingContext

/-- Closes every cache unless that was done before. A context whose caches failed to close stays
open. -/
def close (context : CachingContext) : Program CachingContext :=
  if context.closed then return context
  else do
    context.registry.close
    Program.log .info .context "caching context closed"
    return { context with closed := true }

/-- Leaves a block of work that ended in some outcome: the context is closed, and a failure to close
takes the place of that outcome. -/
def leave {α : Type} (context : CachingContext) (outcome : Except Fault α) :
    Program (Except Fault α × CachingContext) := do
  match ← context.close.attempt with
  | .ok closed => return (outcome, closed)
  | .error fault => return (.error fault, context)

end CachingContext

end CacheWiring
