import CacheWiring.Cache.Engines
import CacheWiring.Cache.Operations

namespace CacheWiring

/-- The first name that cannot be a key or has occurred before. -/
def nameConflict? : List Scalar → List Value → Option Fault
  | _, [] => none
  | seen, name :: rest =>
    match name.key? with
    | none => some .wrongType
    | some key =>
      if seen.any key.same then some (.duplicateName name)
      else nameConflict? (seen ++ [key]) rest

structure Registry where
  caches : List Cache
  distinct : nameConflict? [] (caches.map Cache.name) = none

namespace Registry

def ofCaches (caches : List Cache) : Except Fault Registry :=
  match h : nameConflict? [] (caches.map Cache.name) with
  | some fault => .error fault
  | none => .ok ⟨caches, h⟩

def names (r : Registry) : List Value := r.caches.map Cache.name

def size (r : Registry) : Nat := r.caches.length

def nameTexts (r : Registry) : Except Fault (List Text) := r.names.mapM Value.toStr

def holds (key : Scalar) (cache : Cache) : Bool :=
  match cache.name.key? with
  | some other => other.same key
  | none => false

def get? (r : Registry) (name : Value) : Except Fault (Option Cache) :=
  match name.key? with
  | some key => .ok (r.caches.find? (holds key))
  | none => .error .wrongType

def contains (r : Registry) (name : Value) : Except Fault Bool :=
  (r.get? name).map Option.isSome

def get (r : Registry) (name : Value) : Except Fault Cache := do
  match ← r.get? name, name with
  | some cache, _ => return cache
  | none, .scalar key => throw (.missingKey key)
  | none, _ => throw .wrongType

/-- The cache of a requested name; a missing one is reported together with the names there are. -/
def request (r : Registry) (name : Value) : Except Fault Cache := do
  match ← r.get? name with
  | some cache => return cache
  | none => throw (.cacheNotFound name (← r.nameTexts))

def requestAll (r : Registry) (requested : List Value) : Except Fault (List Cache) :=
  requested.mapM r.request

/-- A registry is frozen: no name is set or removed. -/
def assign (_ : Registry) (_name : Value) : Except Fault Registry := .error .wrongType

def description (r : Registry) : Text := "CacheRegistry(" ++ (Value.list r.names).literal ++ ")"

/-- Closes caches in order, up to the first that fails to close. -/
def closeAll (caches : List Cache) : Program Unit := do
  let _ ← Program.each Cache.close caches

def close (r : Registry) : Program Unit := closeAll r.caches

def bindCluster (engines : Engines) (options : ClientOptions) (cluster : ResolvedCluster) :
    Program Cache := do
  match ← Program.ofExcept (engines.find? cluster.endpoint.engine) with
  | none =>
    Program.fail
      (.unsupportedEngine cluster.logicalName cluster.endpoint.engine engines.supported)
  | some engine =>
    engine.factory cluster.logicalName cluster.endpoint cluster.expiration options

/-- Clusters bound in order. When one fails, the caches built before it are closed; a stop leaves
them as they are. -/
def bindAll (engines : Engines) (options : ClientOptions) (built : List Cache) :
    List ResolvedCluster → Program (List Cache)
  | [] => return built
  | cluster :: rest => do
    match ← (bindCluster engines options cluster).rescue with
    | .ok cache => bindAll engines options (built ++ [cache]) rest
    | .error fault => do
      closeAll built
      Program.fail fault

def build (engines : Engines) (resolved : List ResolvedCluster) (options : ClientOptions) :
    Program Registry := do
  match nameConflict? [] (resolved.map ResolvedCluster.logicalName) with
  | some fault => Program.fail fault
  | none =>
    let caches ← bindAll engines options [] resolved
    let registry ← Program.ofExcept (ofCaches caches)
    let names ← Program.ofExcept registry.nameTexts
    Program.log .info .registry ("cache registry built: " ++ listed names "(empty)")
    return registry

end Registry

end CacheWiring
