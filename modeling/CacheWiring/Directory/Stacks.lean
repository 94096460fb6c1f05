import CacheWiring.Json.Reader
import CacheWiring.Program.Basic
import CacheWiring.Text.File

namespace CacheWiring

inductive StackDirectory where
  | supplied (clusterType : Text)
  | cloudFormation (stack : Value) (listing : Option (List StackResource))
  | pulumi (resources : List StackResource)

namespace StackDirectory

/-- The type tag under which the stack lists its cache clusters. -/
def clusterType : StackDirectory → Text
  | .supplied type => type
  | .cloudFormation .. => "AWS::ElastiCache::CacheCluster"
  | .pulumi _ => "aws:elasticache/cluster:Cluster"

def ofType (type : Text) (resources : List StackResource) : List StackResource :=
  resources.filter fun r => r.type.isStr type

def summary (entry : Value) : Except Fault StackResource := do
  let logicalId ← entry.required "LogicalResourceId"
  let physicalId ← entry.fieldOr "PhysicalResourceId" (.str "")
  let type ← entry.required "ResourceType"
  return ⟨logicalId, physicalId, type⟩

def pageResources (page : Value) : Except Fault (List StackResource) := do
  let entries ← (← page.fieldOr "StackResourceSummaries" (.list [])).members
  entries.mapM summary

/-- The resources of all pages, unless one of them is malformed or the listing breaks off. -/
def pagesResources : Pages → Except Fault (List StackResource)
  | .last => .ok []
  | .broken fault => .error fault
  | .page content rest => do
    let resources ← pageResources content
    return resources ++ (← pagesResources rest)

def loadListing (stack : Value) : Program (List StackResource) := do
  let _ : Unit ← Program.request .openListing
  let pages : Pages ← Program.request (.listStackResources stack)
  let resources ← Program.ofExcept (pagesResources pages)
  Program.log .debug .cloudFormation
    ("stack " ++ stack.text ++ " has " ++ toString resources.length ++ " resources")
  return resources

/-- The resources of a type, and the directory as it is afterwards. A failed listing leaves nothing
behind. -/
def resourcesByType (directory : StackDirectory) (type : Text) :
    Program (List StackResource × StackDirectory) :=
  match directory with
  | .supplied clusterType => do
    let resources : List StackResource ← Program.request (.listByType type)
    return (resources, .supplied clusterType)
  | .cloudFormation stack (some resources) =>
    return (ofType type resources, .cloudFormation stack (some resources))
  | .cloudFormation stack none => do
    let resources ← loadListing stack
    return (ofType type resources, .cloudFormation stack (some resources))
  | .pulumi resources => return (ofType type resources, .pulumi resources)

/-- What follows the last pair of colons, if there is one. -/
def afterLastColons? : Text → Option Text
  | [] => none
  | c :: rest =>
    match afterLastColons? rest with
    | some tail => some tail
    | none => if c = ':' ∧ rest.head? = some ':' then some rest.tail else none

/-- The resource name in a URN, the whole text when it has no pair of colons. -/
def urnName (urn : Text) : Text := (afterLastColons? urn).getD urn

/-- The resource that an exported entry records; there is none without a URN. -/
def exported (entry : Value) : Except Fault (Option StackResource) := do
  let urn ← entry.field "urn"
  if !urn.truthy then return none
  let name ← match urn with
    | .str s => pure (urnName s)
    | _ => throw .noFields
  let physicalId ← entry.fieldOr "id" (.str "")
  let type ← entry.fieldOr "type" (.str "")
  return some ⟨.str name, physicalId, type⟩

/-- The resources of an export, given as a whole or as its inner deployment. -/
def deploymentResources (deployment : Value) : Except Fault (List StackResource) := do
  let inner ← deployment.fieldOr "deployment" deployment
  let entries ← ((← inner.field "resources").orElse (.list [])).members
  let resources ← entries.mapM exported
  return resources.filterMap id

def ofDeployment (deployment : Value) : Except Fault StackDirectory :=
  (deploymentResources deployment).map .pulumi

def forRegion (stack region : Value) : Program StackDirectory := do
  let _ : Unit ← Program.request (.openCloud .cloudFormation region)
  return .cloudFormation stack none

def ofExportFile (path : Text) : Program StackDirectory := do
  if !(← Text.fileExists path) then Program.fail (.stop (.exportNotFound path))
  else
    let text ← Text.readText path
    Program.ofExcept ((Json.read text).bind ofDeployment)

def ofLiveStack (stack project : Value) : Program StackDirectory := do
  let deployment : Value ← Program.request (.selectStack stack project)
  Program.ofExcept (ofDeployment deployment)

def ofSettings (settings : StackSettings) (region : Value) : Program StackDirectory :=
  if settings.provider.isStr "cloudformation" then forRegion settings.name region
  else if settings.provider.isStr "pulumi" then
    if settings.exportFile.truthy then
      match settings.exportFile with
      | .str path => ofExportFile path
      | _ => Program.fail .wrongType
    else if settings.project.truthy then ofLiveStack settings.name settings.project
    else Program.fail (.stop .projectRequired)
  else Program.fail (.unknownProvider settings.provider)

end StackDirectory

end CacheWiring
