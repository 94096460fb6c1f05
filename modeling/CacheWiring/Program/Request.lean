import CacheWiring.Cluster
import CacheWiring.Configuration.Basic

namespace CacheWiring

/-- A named cache: its client is known by number, and every write carries the expiration. -/
structure Cache where
  name : Value
  client : Nat
  expiration : Value

inductive CloudService where
  | elastiCache
  | cloudFormation
  deriving DecidableEq

/-- The pages of a listing, which may break off with a fault. -/
inductive Pages where
  | last
  | broken (fault : Fault)
  | page (content : Value) (rest : Pages)

structure LookupNode where
  address : Value
  port : Value

structure Lookup where
  id : Value
  engine : Value
  address : Value
  port : Value
  nodes : List LookupNode

structure ConnectionSettings where
  connectTimeout : Value
  timeout : Value
  usePooling : Bool
  maxPoolSize : Value

inductive Call where
  | get (key : Text) (fallback : Value)
  | set (key : Text) (value : Value) (expire : Value)
  | add (key : Text) (value : Value) (expire : Value)
  | delete (key : Text)
  | flushAll
  | close

/-- A read replies with a value, an `add` with whether it stored. -/
def Call.Reply : Call → Type
  | .get .. => Value
  | .add .. => Bool
  | _ => Unit

inductive Request where
  /-- A cluster description from the directory that the caller supplied. -/
  | describe (id : Value) (withNodes : Bool)
  /-- Resources of a type from the stack directory that the caller supplied. -/
  | listByType (type : Text)
  | openCloud (service : CloudService) (region : Value)
  | describeCacheClusters (id : Value) (withNodes : Bool)
  | openListing
  | listStackResources (stack : Value)
  /-- A lookup through a provider; none when the provider is null. -/
  | lookUpCluster (id : Value) (provider : Value)
  /-- The deployment recorded for a stack of a project. -/
  | selectStack (stack : Value) (project : Value)
  | pathExists (path : Text)
  | fileBytes (path : Text)
  /-- A cache from the factory of an engine that the caller registered. -/
  | buildCache (engine : Text) (name : Value) (endpoint : ClusterEndpoint) (expiration : Value)
      (options : ClientOptions)
  | connect (servers : List NodeEndpoint) (settings : ConnectionSettings)
  | call (client : Nat) (call : Call)
  /-- A text that no earlier request was given. -/
  | freshToken

def Request.Reply : Request → Type
  | .describe .. => List ClusterDescription
  | .listByType _ => List StackResource
  | .openCloud .. => Unit
  | .describeCacheClusters .. => Value
  | .openListing => Unit
  | .listStackResources _ => Pages
  | .lookUpCluster .. => Lookup
  | .selectStack .. => Value
  | .pathExists _ => Bool
  | .fileBytes _ => ByteArray
  | .buildCache .. => Cache
  | .connect .. => Nat
  | .call _ c => c.Reply
  | .freshToken => Text

inductive Level where
  | debug
  | info
  deriving DecidableEq

def Level.text : Level → String
  | .debug => "DEBUG"
  | .info => "INFO"

inductive LogSource where
  | resolver
  | registry
  | context
  | memcached
  | elastiCache
  | cloudFormation
  | pulumi
  deriving DecidableEq

def LogSource.text : LogSource → String
  | .resolver => "elasticache_caching.resolver"
  | .registry => "elasticache_caching.registry"
  | .context => "elasticache_caching.context"
  | .memcached => "elasticache_caching.engines.memcached"
  | .elastiCache => "elasticache_caching.directory.elasticache"
  | .cloudFormation => "elasticache_caching.directory.cloudformation"
  | .pulumi => "elasticache_caching.directory.pulumi_lookup"

structure LogRecord where
  level : Level
  source : LogSource
  message : Text

def LogRecord.text (r : LogRecord) : Text :=
  r.level.text ++ " " ++ r.source.text ++ ": " ++ r.message

/-- What is put out. The channels are taken to be able to encode every text, so putting a line out
does not fail. -/
inductive Output where
  | log (record : LogRecord)
  /-- A line for the user. -/
  | line (text : Text)
  /-- A line on the error channel. -/
  | complaint (text : Text)

end CacheWiring
