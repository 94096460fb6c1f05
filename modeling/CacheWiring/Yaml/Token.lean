import CacheWiring.Yaml.Cursor

namespace CacheWiring.Yaml

inductive Directive where
  | version (major : Nat)
  | tagHandle (handle expansion : String)
  | other

inductive Token where
  | directive (d : Directive)
  | documentStart
  | documentEnd
  | streamEnd
  | blockSequenceStart
  | blockMappingStart
  | blockEnd
  | flowSequenceStart
  | flowSequenceEnd
  | flowMappingStart
  | flowMappingEnd
  | blockEntry
  | flowEntry
  | key
  | value
  | alias (name : String)
  | anchor (name : String)
  /-- A tag without a handle is given in full. -/
  | tag (handle : Option String) (suffix : String)
  | scalar (plain : Bool) (text : Text)
  /-- The text from here on is not made of tokens. -/
  | broken (fault : Fault)

end CacheWiring.Yaml
