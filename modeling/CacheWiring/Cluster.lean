import CacheWiring.Value.Text

namespace CacheWiring

structure NodeEndpoint where
  host : Value
  port : Value

def NodeEndpoint.text (n : NodeEndpoint) : Text := n.host.text ++ ":" ++ n.port.text

structure StackResource where
  logicalId : Value
  physicalId : Value
  type : Value

structure ClusterDescription where
  id : Value
  engine : Value
  configurationEndpoint : Option NodeEndpoint
  nodes : List NodeEndpoint

structure ClusterEndpoint where
  host : Value
  port : Value
  engine : Value
  nodes : List NodeEndpoint

/-- The addresses to connect to: every node, or the configuration endpoint when none is known. -/
def ClusterEndpoint.servers (e : ClusterEndpoint) : List NodeEndpoint :=
  if e.nodes.isEmpty then [⟨e.host, e.port⟩] else e.nodes

structure ResolvedCluster where
  logicalName : Value
  endpoint : ClusterEndpoint
  expiration : Value

end CacheWiring
