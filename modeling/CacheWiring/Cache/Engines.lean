import CacheWiring.Program.Basic

namespace CacheWiring

structure Engine where
  factory : Value → ClusterEndpoint → Value → ClientOptions → Program Cache
  defaultPort : Int

/-- Engines by name, each name once. -/
structure Engines where
  entries : List (Text × Engine)

namespace Engines

/-- A name that is registered again keeps its place. -/
def registerIn (entries : List (Text × Engine)) (name : Text) (engine : Engine) :
    List (Text × Engine) :=
  match entries with
  | [] => [(name, engine)]
  | (other, old) :: rest =>
    if other = name then (name, engine) :: rest else (other, old) :: registerIn rest name engine

def register (engines : Engines) (name : Text) (engine : Engine) : Engines :=
  ⟨registerIn engines.entries name engine⟩

def unregister (engines : Engines) (name : Text) : Engines :=
  ⟨engines.entries.filter fun entry => entry.1 != name⟩

def named? (engines : Engines) (name : Text) : Option Engine :=
  (engines.entries.find? fun entry => entry.1 == name).map (·.2)

/-- The engine that a description names; a list or a mapping cannot name one. -/
def find? (engines : Engines) (name : Value) : Except Fault (Option Engine) :=
  match name with
  | .str s => .ok (engines.named? s)
  | v => if v.key?.isSome then .ok none else .error .wrongType

/-- The names in ascending order of their characters. -/
def supported (engines : Engines) : List Text :=
  (engines.entries.map (·.1)).mergeSort fun a b => !decide (b < a)

end Engines

namespace Engine

def serverText (n : NodeEndpoint) : Text := "(" ++ n.host.literal ++ ", " ++ n.port.literal ++ ")"

def serversText (servers : List NodeEndpoint) : Text :=
  "[" ++ Text.joined ", " (servers.map serverText) ++ "]"

/-- A pool is used when its size is given, even when it is zero. -/
def settings (options : ClientOptions) : ConnectionSettings :=
  ⟨options.connectTimeout, options.timeout, !options.maxPoolSize.isNull, options.maxPoolSize⟩

def connectMemcached (name : Value) (endpoint : ClusterEndpoint) (expiration : Value)
    (options : ClientOptions) : Program Cache := do
  let client : Nat ← Program.request (.connect endpoint.servers (settings options))
  Program.log .debug .memcached
    ("memcached client for " ++ name.text ++ " bound to " ++ serversText endpoint.servers)
  return ⟨name, client, expiration⟩

def memcached : Engine := ⟨connectMemcached, 11211⟩

/-- An engine whose caches are made elsewhere. -/
def requested (name : Text) (defaultPort : Int) : Engine :=
  ⟨fun cacheName endpoint expiration options =>
    Program.request (.buildCache name cacheName endpoint expiration options), defaultPort⟩

end Engine

def Engines.shipped : Engines := ⟨[("memcached", Engine.memcached)]⟩

end CacheWiring
