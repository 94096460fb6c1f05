import CacheWiring.Number.Numeral
import CacheWiring.Value.Text

namespace CacheWiring

/-- Longer expirations would be read by memcached as absolute times. -/
def maxExpiration : Int := 30 * 24 * 60 * 60

inductive ExpirationOwner where
  | cluster (name : Value)
  | default

def ExpirationOwner.text : ExpirationOwner → Text
  | .cluster name => "expiration for " ++ name.literal
  | .default => "default expiration"

def ExpirationOwner.unwritable? : ExpirationOwner → Option Unwritable
  | .cluster name => name.unwritable?
  | .default => none

inductive CloudOperation where
  | describeCacheClusters
  | listStackResources
  deriving DecidableEq

def CloudOperation.text : CloudOperation → String
  | .describeCacheClusters => "DescribeCacheClusters"
  | .listStackResources => "ListStackResources"

structure Refusal where
  operation : CloudOperation
  code : Option Value
  detail : Option Value
  retries : Option Value

def Refusal.message (r : Refusal) : Text :=
  let shown (v : Option Value) : Text := (v.map Value.text).getD "Unknown"
  let retried := match r.retries with
    | some count => " (reached max retries: " ++ count.text ++ ")"
    | none => ""
  "An error occurred (" ++ shown r.code ++ ") when calling the " ++ r.operation.text
    ++ " operation" ++ retried ++ ": " ++ shown r.detail

/-- Why a declared cache could not be resolved to exactly one endpoint. -/
inductive ResolutionError where
  | noClustersDeclared
  | noPhysicalId (logicalId : Value)
  | clusterNotFound (id : Value)
  | severalClusters (id : Value) (count : Nat)
  | noConfigurationEndpoint (id : Value)

def ResolutionError.message : ResolutionError → Text
  | .noClustersDeclared => "no cache clusters declared and no stack directory configured"
  | .noPhysicalId logicalId => "stack resource " ++ logicalId.literal ++ " has no physical id"
  | .clusterNotFound id => "cache cluster not found: " ++ id.literal
  | .severalClusters id count =>
    "expected exactly one cache cluster for " ++ id.literal ++ ", got " ++ toString count
  | .noConfigurationEndpoint id =>
    "cache cluster " ++ id.literal ++ " has no configuration endpoint"

inductive Stop where
  | pathNotSet
  | noPathGiven
  | resolutionFailed (cause : Text)
  | configurationNotFound (path : Text)
  | uncheckedConfiguration (path cause : Text)
  | invalidConfiguration (path : Text) (problems : List Text)
  | exportNotFound (path : Text)
  | projectRequired

def pathSetting : String := "ELASTICACHE_CONFIG_PATH"

def knownVersion : String := "elasticache-caching/v1"

def unsupportedVersionMessage (version : Value) : Text :=
  "Unsupported apiVersion: " ++ version.text ++ " (known: " ++ knownVersion ++ ")"

def Stop.message : Stop → Text
  | .pathNotSet => pathSetting ++ " environment variable required"
  | .noPathGiven => "Configuration path required (argument or " ++ pathSetting ++ ")."
  | .resolutionFailed cause => "Resolution failed: " ++ cause
  | .configurationNotFound path => "cache configuration not found: " ++ path
  | .uncheckedConfiguration path cause => path ++ ": " ++ cause
  | .invalidConfiguration path problems =>
    Text.joined "\n"
      (("invalid cache configuration " ++ path ++ ":") :: problems.map ("  - " ++ ·))
  | .exportNotFound path => "Pulumi stack export not found: " ++ path
  | .projectRequired => "stack.project is required for a live Pulumi stack"

/-- What is nested too deep: collections of a configuration document or mappings with keys of their
own in it, mappings that are merged, parts of a value that is to be shown, or parts of JSON text. -/
inductive Nesting where
  | collection
  | mapping
  | merge
  | shown
  | array
  | object
  deriving DecidableEq

def Nesting.text : Nesting → String
  | .collection => ""
  | .mapping => " while calling a Python object"
  | .merge => " in comparison"
  | .shown => " while getting the repr of an object"
  | .array => " while decoding a JSON array from a unicode string"
  | .object => " while decoding a JSON object from a unicode string"

inductive Fault where
  /-- A value of a kind that the operation does not work on. -/
  | wrongType
  /-- A field was asked of something that has no fields. -/
  | noFields
  | missingKey (key : Scalar)
  /-- A character was asked of an empty text. -/
  | noCharacter
  | undecodable
  | notJson
  | notYaml
  | notInteger (base : Nat) (shown : Text)
  | notFloat (text : Text)
  | notDate (error : CalendarError)
  /-- A code beyond the last character. -/
  | notCodePoint
  /-- A code that is out of all proportion. -/
  | codeTooLarge
  /-- An integer with too many digits to be read, or written when there is no count of them. -/
  | tooManyDigits (count : Option Nat)
  /-- An integer beyond the largest double. -/
  | beyondDoubles
  /-- Collections nested too deep, or a text defined by itself alone. -/
  | tooDeep (kind : Nesting)
  /-- Not a number or an infinity has no integer part. -/
  | noInteger (x : Binary64)
  | emptyClusterName
  | expirationTooLow (owner : ExpirationOwner) (found : Value)
  | expirationTooHigh (owner : ExpirationOwner) (found : Value)
  | unsupportedVersion (version : Value)
  | unknownProvider (provider : Value)
  | stop (reason : Stop)
  | resolution (error : ResolutionError)
  | unsupportedEngine (cluster engine : Value) (supported : List Text)
  | duplicateName (name : Value)
  | cacheNotFound (name : Value) (available : List Text)
  | refused (refusal : Refusal)
  /-- A health check read something else than it had written. -/
  | unexpectedReply (reply : Value)
  /-- An error of a service, with the service's own name for its kind. -/
  | service (kind text : Text)

/-- Names in a row, or a word in place of an empty row. -/
def listed (names : List Text) (nothing : Text) : Text :=
  let row := Text.joined ", " names
  if row.isEmpty then nothing else row

def shortened (text : Text) : Text := text.take 200

def tooManyDigitsMessage (count : Option Nat) : Text :=
  "Exceeds the limit (" ++ toString Numeral.maxDigits ++ " digits) for integer string conversion"
    ++ (match count with
      | some n => ": value has " ++ toString n ++ " digits"
      | none => "")
    ++ "; use sys.set_int_max_str_digits() to increase the limit"

namespace Fault

def ofNumeral (base : Nat) (shown : Text) : Numeral.IntegerError → Fault
  | .malformed => .notInteger base shown
  | .tooManyDigits count => .tooManyDigits (some count)

def ofUnwritable : Unwritable → Fault
  | .tooManyDigits => .tooManyDigits none
  | .tooDeep => .tooDeep .shown

def message : Fault → Text
  | .wrongType => "a value of the wrong type"
  | .noFields => "a value without fields"
  | .missingKey key => key.literal
  | .noCharacter => "string index out of range"
  | .undecodable => "the text is not UTF-8"
  | .notJson => "the text is not JSON"
  | .notYaml => "the text is not YAML"
  | .notInteger base shown =>
    "invalid literal for int() with base " ++ toString base ++ ": " ++ shortened shown
  | .notFloat text => "could not convert string to float: " ++ Text.quoted text
  | .notDate error => error.message
  | .notCodePoint => "chr() arg not in range(0x110000)"
  | .codeTooLarge => "Python int too large to convert to C int"
  | .tooManyDigits count => tooManyDigitsMessage count
  | .beyondDoubles => "int too large to convert to float"
  | .tooDeep kind => "maximum recursion depth exceeded" ++ kind.text
  | .noInteger (.nan _) => "cannot convert float NaN to integer"
  | .noInteger _ => "cannot convert float infinity to integer"
  | .emptyClusterName => "cache cluster name must not be empty"
  | .expirationTooLow owner found => owner.text ++ " must be >= 0, got " ++ found.text
  | .expirationTooHigh owner found =>
    owner.text ++ " must be <= " ++ toString maxExpiration ++ " seconds, got " ++ found.text
  | .unsupportedVersion version => unsupportedVersionMessage version
  | .unknownProvider provider => "Unknown stack provider: " ++ provider.text
  | .stop reason => reason.message
  | .resolution error => error.message
  | .unsupportedEngine cluster engine supported =>
    "cache cluster " ++ cluster.literal ++ " uses unsupported engine " ++ engine.literal
      ++ ". Supported engines: " ++ listed supported "(none)"
  | .duplicateName name => "duplicate cache name: " ++ name.literal
  | .cacheNotFound name available =>
    "cannot find cache named " ++ name.literal
      ++ ". Available caches: " ++ listed available "(none)"
  | .refused refusal => refusal.message
  | .unexpectedReply reply => "GET returned " ++ reply.literal
  | .service _ text => text

/-- The errors of cache wiring proper: those that say why startup cannot go on. -/
def isWiring : Fault → Bool
  | .resolution _ | .unsupportedEngine .. | .duplicateName _ | .cacheNotFound .. => true
  | _ => false

/-- A stop is meant to end the program, so nothing that deals with errors takes it for one. -/
def isStop : Fault → Bool
  | .stop _ => true
  | _ => false

end Fault

end CacheWiring
