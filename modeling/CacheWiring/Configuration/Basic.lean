import CacheWiring.Value.Access

namespace CacheWiring

/-- A declared cache cluster; the expiration is null when none is declared. -/
structure ClusterDeclaration where
  name : Value
  expiration : Value

structure ClientOptions where
  connectTimeout : Value := .null
  timeout : Value := .null
  maxPoolSize : Value := .null

structure StackSettings where
  provider : Value := .str "cloudformation"
  name : Value := .str ""
  project : Value := .str ""
  exportFile : Value := .null

structure Configuration where
  clusters : List ClusterDeclaration := []
  defaultExpiration : Value := .null
  region : Value := .null
  stack : Option StackSettings := none
  client : ClientOptions := {}
  name : Value := .str ""

/-- A complaint about an expiration, or why its owner or the expiration cannot be shown in it. -/
def ofExpiration (owner : ExpirationOwner) (expiration : Value) (complaint : Fault) : Fault :=
  match owner.unwritable?.or expiration.unwritable? with
  | some reason => .ofUnwritable reason
  | none => complaint

/-- An expiration is absent or lies between zero and the maximum. -/
def checkExpiration (owner : ExpirationOwner) (expiration : Value) : Except Fault Unit :=
  if expiration.isNull then .ok ()
  else do
    if ← expiration.isBelow 0 then
      throw (ofExpiration owner expiration (.expirationTooLow owner expiration))
    if ← expiration.isAbove maxExpiration then
      throw (ofExpiration owner expiration (.expirationTooHigh owner expiration))

def ClusterDeclaration.make (name expiration : Value) : Except Fault ClusterDeclaration := do
  if !name.truthy then throw .emptyClusterName
  checkExpiration (.cluster name) expiration
  return ⟨name, expiration⟩

def Configuration.checked (c : Configuration) : Except Fault Configuration := do
  checkExpiration .default c.defaultExpiration
  return c

end CacheWiring
