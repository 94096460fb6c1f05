import CacheWiring.Configuration.Basic

namespace CacheWiring

def ClusterDeclaration.ofDocument (entry : Value) : Except Fault ClusterDeclaration := do
  let name ← entry.required "name"
  let expiration ← entry.field "expiration"
  ClusterDeclaration.make name expiration

def StackSettings.ofDocument (entry : Value) : Except Fault StackSettings := do
  let provider ← entry.fieldOr "provider" (.str "cloudformation")
  let name ← entry.fieldOr "name" (.str "")
  let project ← entry.fieldOr "project" (.str "")
  let exportFile ← entry.field "exportFile"
  return ⟨provider, name, project, exportFile⟩

def ClientOptions.ofDocument (entry : Value) : Except Fault ClientOptions := do
  let connectTimeout ← entry.field "connectTimeout"
  let timeout ← entry.field "timeout"
  let maxPoolSize ← entry.field "maxPoolSize"
  return ⟨connectTimeout, timeout, maxPoolSize⟩

/-- A section, an empty mapping in place of one that counts as empty. -/
def sectionOf (v : Value) (name : String) : Except Fault Value :=
  (v.field name).map (·.orElse (.dict []))

def Configuration.ofDocument (document : Value) : Except Fault Configuration := do
  let metadata ← sectionOf document "metadata"
  let spec ← sectionOf document "spec"
  let entries ← ((← spec.field "clusters").orElse (.list [])).members
  let clusters ← entries.mapM ClusterDeclaration.ofDocument
  let stackEntry ← spec.field "stack"
  let stack ←
    if stackEntry.isNull then pure none else some <$> StackSettings.ofDocument stackEntry
  let client ← ClientOptions.ofDocument (← sectionOf spec "client")
  let defaultExpiration ← spec.field "defaultExpiration"
  let region ← spec.field "region"
  let name ← metadata.fieldOr "name" (.str "")
  Configuration.checked ⟨clusters, defaultExpiration, region, stack, client, name⟩

end CacheWiring
