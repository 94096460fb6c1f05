import CacheWiring.Command.Run
import Std.Time.Format

namespace CacheWiring.Terminal

def unavailable (service : String) : Fault :=
  .service "Unavailable" (service ++ " cannot be reached from this program")

def fileExists (path : Text) : IO Bool := do
  try
    let _ ← IO.FS.Handle.mk path.displayed .read
    return true
  catch
    | .noFileOrDirectory .. => return false
    | .inappropriateType .. => return false
    | _ => return true

def fileBytes (path : Text) : IO (Except Fault ByteArray) := do
  try
    return .ok (← IO.FS.readBinFile path.displayed)
  catch error => return .error (.service "FileError" (toString error))

def freshToken : IO Text := do
  let bytes ← IO.getRandomBytes 16
  return Text.ofChars (bytes.toList.flatMap fun byte => Text.hexadecimal 2 byte.toNat)

def answer : (request : Request) → IO (Except Fault request.Reply)
  | .pathExists path => Except.ok <$> fileExists path
  | .fileBytes path => fileBytes path
  | .freshToken => Except.ok <$> freshToken
  | .lookUpCluster .. | .selectStack .. => return .error (unavailable "the deployment service")
  | .connect .. | .call .. | .buildCache .. => return .error (unavailable "the cache server")
  | .describe .. | .listByType _ | .openCloud .. | .describeCacheClusters .. | .openListing
  | .listStackResources _ => return .error (unavailable "the cloud provider")

def tell : Output → IO Unit
  | .line text => IO.println text.displayed
  | .complaint text => IO.eprintln text.displayed
  | .log record => do
    let now ← Std.Time.PlainDateTime.now
    IO.eprintln (now.format "uuuu-MM-dd HH:mm:ss,SSS" ++ " " ++ record.text.displayed)

def perform {α : Type} : Program α → IO (Except Fault α)
  | .done outcome => return outcome
  | .emit output next => do
    tell output
    perform next
  | .ask request next => do
    let reply ← answer request
    perform (next reply)

end CacheWiring.Terminal

/-- Runs one command line; a fault that nothing caught is told and makes the status 1. -/
def main (texts : List String) : IO UInt32 := do
  let setting ← IO.getEnv CacheWiring.pathSetting
  let program := CacheWiring.Command.run CacheWiring.Engines.shipped
    (setting.map CacheWiring.Text.ofString) (texts.map CacheWiring.Text.ofString)
  match ← CacheWiring.Terminal.perform program with
  | .ok status => return status.toUInt32
  | .error fault =>
    IO.eprintln fault.message.displayed
    return 1
