import CacheWiring.Schema.Shape

namespace CacheWiring

namespace Shape

def clusterEntry : Shape :=
  .record ["name"] true
    [("name", .string true), ("expiration", .integer 0 (some maxExpiration))]

def stackSection : Shape :=
  .record ["name"] true
    [("provider", .oneOf ["cloudformation", "pulumi"]), ("name", .string true),
      ("project", .string false), ("exportFile", .string false)]

def clientSection : Shape :=
  .record [] true
    [("connectTimeout", .number 0), ("timeout", .number 0), ("maxPoolSize", .integer 1 none)]

def specSection : Shape :=
  .record [] true
    [("region", .string true), ("defaultExpiration", .integer 0 (some maxExpiration)),
      ("clusters", .list clusterEntry), ("stack", stackSection), ("client", clientSection)]

def metadataSection : Shape :=
  .record [] false [("name", .string false), ("description", .string false)]

def document : Shape :=
  .record ["apiVersion", "kind", "spec"] true
    [("apiVersion", .exactly knownVersion), ("kind", .exactly "CacheConfiguration"),
      ("metadata", metadataSection), ("spec", specSection)]

end Shape

namespace Problem

def clusterEntries (document : Value) : List Value :=
  (((document.get? "spec").bind (·.get? "clusters")).bind Value.items?).getD []

/-- A cluster entry is called by its name, or counted when it has none. -/
def clusterLabel (document : Value) (index : Nat) : Text :=
  let name := ((clusterEntries document)[index]?).bind (·.get? "name")
  match name with
  | some name =>
    if name.truthy then "cluster " ++ name.literal else "cluster #" ++ toString (index + 1)
  | none => "cluster #" ++ toString (index + 1)

def spaced (head : Text) (steps : List Step) : Text :=
  Text.joined " " (head :: steps.map fun step => step.text)

def place (document : Value) (path : List Step) : Text :=
  let inner := match path with
    | .field "spec" :: rest => rest
    | _ => path
  match inner with
  | .field "clusters" :: .item index :: rest => spaced (clusterLabel document index) rest
  | .field "stack" :: rest => spaced "stack" rest
  | [] => if path.isEmpty then "document" else "spec"
  | steps => ".".intercalate (steps.map Step.text)

def line (document : Value) (p : Problem) : Text :=
  place document p.path ++ ": " ++ p.departure.message

def sortKey (p : Problem) : List String := p.path.map Step.text

def notAfter (p q : Problem) : Bool := !decide (q.sortKey < p.sortKey)

end Problem

/-- The lines of problems in their order. All problems have to be writable; of those that are not,
the first one found counts. -/
def problemLines (document : Value) (problems : List Problem) : Except Fault (List Text) :=
  match problems.findSome? fun p => p.departure.unwritable? with
  | some reason => .error (.ofUnwritable reason)
  | none => .ok ((problems.mergeSort Problem.notAfter).map (Problem.line document))

def unknownVersion (version : Value) : Fault :=
  if version.key?.isNone then .wrongType
  else
    match version.unwritable? with
    | some reason => .ofUnwritable reason
    | none => .unsupportedVersion version

/-- Every problem of a parsed configuration document, one line each. -/
def checkDocument (document : Value) : Except Fault (List Text) :=
  match document.entries? with
  | none => .ok ["document: must be a mapping"]
  | some _ =>
    match document.get? "apiVersion" with
    | none => .ok ["document: apiVersion is required"]
    | some version =>
      if !version.truthy then .ok ["document: apiVersion is required"]
      else if version.isStr knownVersion then 
        problemLines document (Shape.document.problems [] document)
      else .error (unknownVersion version)

end CacheWiring
