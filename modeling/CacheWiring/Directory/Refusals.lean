import CacheWiring.Value.Access

namespace CacheWiring

/-- The count of retries, when the answer says that no further one was allowed. -/
def retriesIn (response : Value) : Except Fault (Option Value) := do
  match response.get? "ResponseMetadata" with
  | none => return none
  | some metadata =>
    if (← metadata.field "MaxAttemptsReached").truthy then metadata.field? "RetryAttempts"
    else return none

def refusalIn (operation : CloudOperation) (response : Value) : Except Fault Refusal := do
  let retries ← retriesIn response
  let error ← response.fieldOr "Error" (.dict [])
  let code ← error.field? "Code"
  let detail ← error.field? "Message"
  return ⟨operation, code, detail, retries⟩

/-- The fault that an error answer stands for; a malformed answer is a fault of its own. -/
def Fault.refusal (operation : CloudOperation) (response : Value) : Fault :=
  match refusalIn operation response with
  | .ok refusal => .refused refusal
  | .error fault => fault

end CacheWiring
