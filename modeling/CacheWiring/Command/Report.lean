import CacheWiring.Cache.Operations
import CacheWiring.Fault
import CacheWiring.Json.Layout

namespace CacheWiring

/-- An expiration of zero is none. -/
def expirationText (expiration : Value) : Text :=
  if expiration.truthy then expiration.text ++ "s" else "none"

def ResolvedCluster.report (r : ResolvedCluster) : List Text :=
  let e := r.endpoint
  [r.logicalName.text,
    "  endpoint: " ++ e.host.text ++ ":" ++ e.port.text ++ " (" ++ e.engine.text ++ ")",
    "  nodes: " ++ listed (e.nodes.map NodeEndpoint.text) "-",
    "  expiration: " ++ expirationText r.expiration]

structure CheckResult where
  cache : Text
  failure : Option Fault

namespace CheckResult

def failed (r : CheckResult) : Bool := r.failure.isSome

def status (r : CheckResult) : String := if r.failed then "FAIL" else "PASS"

def line (r : CheckResult) : Text :=
  let reason : Text := match r.failure with
    | some fault => ": " ++ fault.message
    | none => ""
  "  [" ++ r.status ++ "] " ++ r.cache ++ reason

def fields (r : CheckResult) : List (String × Text) :=
  [("cache", r.cache), ("status", r.status)] ++
    match r.failure with
    | some fault => [("error", fault.message)]
    | none => []

def summary (results : List CheckResult) : List String :=
  let record (r : CheckResult) : List String :=
    Json.object (r.fields.map fun (name, text) => (name, [Json.writeString text]))
  Json.object [("results", Json.array (results.map record))]

def report (results : List CheckResult) : List Text :=
  results.map line ++ (summary results).map Text.ofString

end CheckResult

end CacheWiring
