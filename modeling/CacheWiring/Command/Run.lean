import CacheWiring.Command.Report
import CacheWiring.Command.Usage
import CacheWiring.Configuration.File
import CacheWiring.Context

namespace CacheWiring

def Program.sayAll (lines : List Text) : Program Unit := do
  let _ ← Program.each (fun text => Program.tell (.line text)) lines

def Program.complainAll (lines : List Text) : Program Unit := do
  let _ ← Program.each (fun text => Program.tell (.complaint text)) lines

namespace Command

/-- The path given, or else the one that the setting names; an empty one names no file. -/
def chosenPath (path setting : Option Text) : Except Fault Text :=
  let named (text : Text) : Bool := !text.isEmpty
  match (path.filter named).or (setting.filter named) with
  | some chosen => .ok chosen
  | none => .error (.stop .noPathGiven)

/-- A failure to wire the caches stops the program. -/
def orStop {α : Type} (wiring : Program α) : Program α := do
  match ← wiring.attempt with
  | .ok a => return a
  | .error fault =>
    Program.fail (if fault.isWiring then .stop (.resolutionFailed fault.message) else fault)

def showResolved (engines : Engines) (c : Configuration) : Program Nat := do
  let resolved ← orStop (c.resolveClusters engines ⟨none, none⟩)
  Program.sayAll
    (if resolved.isEmpty then ["No caches declared."] else resolved.flatMap ResolvedCluster.report)
  return 0

def probeText : Text := "ok"

/-- The complaint about a reply, or why the reply cannot be shown in it. -/
def unexpected (found : Value) : Fault :=
  match found.unwritable? with
  | some reason => .ofUnwritable reason
  | none => .unexpectedReply found

/-- Writes an entry that nobody else knows, reads it back and removes it. -/
def roundTrip (cache : Cache) : Program Unit := do
  let token : Text ← Program.request .freshToken
  let key : Value := .str ("__check__" ++ token)
  cache.put key (.str probeText)
  let found ← cache.get key .null
  cache.evict key
  if !found.isStr probeText then Program.fail (unexpected found)

def checkCache (cache : Cache) : Program CheckResult := do
  match ← (roundTrip cache).rescue with
  | .ok _ => return ⟨cache.name.text, none⟩
  | .error fault => return ⟨cache.name.text, some fault⟩

def checkCaches (engines : Engines) (c : Configuration) : Program (List CheckResult) := do
  let context ← orStop (c.start engines ⟨none, none⟩)
  let results ← (Program.each checkCache context.registry.caches).attempt
  let (outcome, _) ← context.leave results
  Program.ofExcept outcome

def showChecked (engines : Engines) (c : Configuration) : Program Nat := do
  let results ← checkCaches engines c
  Program.sayAll (CheckResult.report results)
  return if results.any CheckResult.failed then 1 else 0

/-- A stop ends the program with its text on the error channel. -/
def stopped (program : Program Nat) : Program Nat := do
  match ← program.attempt with
  | .error (.stop reason) =>
    Program.complainAll [reason.message]
    return 1
  | outcome => Program.ofExcept outcome

def carryOut (engines : Engines) (setting : Option Text) (invocation : Invocation) :
    Program Nat := do
  let path ← Program.ofExcept (chosenPath invocation.path setting)
  let c ← Configuration.load path
  match invocation.command with
  | .resolve => showResolved engines c
  | .check => showChecked engines c

def interrupt (ending : Ending) : Program Nat :=
  match ending.cause with
  | .help => do
    Program.sayAll ((help ending.command).map Text.ofString)
    return 0
  | .misuse error => do
    Program.complainAll (complaint ending.command error)
    return 2

/-- A whole command line; log records are kept only when they are asked for. -/
def run (engines : Engines) (setting : Option Text) (texts : List Text) : Program Nat :=
  match Invocation.ofTexts texts with
  | .error ending => interrupt ending
  | .ok invocation =>
    let program := stopped (carryOut engines setting invocation)
    if invocation.verbose then program else program.quiet

end Command

end CacheWiring
