import CacheWiring.Configuration.Document
import CacheWiring.Schema.Document
import CacheWiring.Text.File
import CacheWiring.Yaml.Document

namespace CacheWiring.Configuration

def ofChecked (path : Text) (document : Value) : Except Fault Configuration :=
  match checkDocument document with
  | .ok [] => ofDocument document
  | .ok problems => .error (.stop (.invalidConfiguration path problems))
  | .error .wrongType => .error .wrongType
  | .error (.tooDeep kind) => .error (.tooDeep kind)
  | .error fault => .error (.stop (.uncheckedConfiguration path fault.message))

def load (path : Text) : Program Configuration := do
  if !(← Text.fileExists path) then Program.fail (.stop (.configurationNotFound path))
  else
    let decoded ← Text.readPartly path
    Program.ofExcept ((Yaml.read (.ofDecoded decoded)).bind (ofChecked path))

/-- Loads the file that the environment names; an empty setting names none. -/
def loadSetting (setting : Option Text) : Program Configuration :=
  match setting with
  | some path => if path.isEmpty then Program.fail (.stop .pathNotSet) else load path
  | none => Program.fail (.stop .pathNotSet)

end CacheWiring.Configuration
