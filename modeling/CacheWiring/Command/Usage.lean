import CacheWiring.Command.Invocation
import CacheWiring.Text.Quoted

namespace CacheWiring

def UsageError.message : UsageError → Text
  | .ambiguousOption word candidates =>
    "ambiguous option: " ++ word ++ " could match "
      ++ Text.joined ", " (candidates.map fun flag => flag.longName)
  | .ignoredValue flag value =>
    "argument " ++ flag.label ++ ": ignored explicit argument " ++ Text.quoted value
  | .commandMissing => "the following arguments are required: command"
  | .unknownCommand word =>
    "argument command: invalid choice: " ++ Text.quoted word ++ " (choose from "
      ++ Text.joined ", " (Command.all.map fun command => Text.quoted command.name) ++ ")"
  | .unrecognized words => "unrecognized arguments: " ++ Text.joined " " words

def programName : String := "elasticache-caching"

namespace Command

/-- The program's name, followed by the command in whose name it speaks. -/
def title : Option Command → String
  | none => programName
  | some command => programName ++ " " ++ command.name

def usage (command : Option Command) : String :=
  "usage: " ++ title command ++
    match command with
    | none => " [-h] [-v] \x7bresolve,check\x7d ..."
    | some _ => " [-h] [config]"

def programHelp : List String :=
  [usage none,
    "",
    "Resolve and check ElastiCache memcached caches declared in a configuration",
    "file.",
    "",
    "positional arguments:",
    "  \x7bresolve,check\x7d",
    "    resolve        Show the endpoint and expiration of every declared cache",
    "    check          Connect to every declared cache and run a set/get round",
    "                   trip",
    "",
    "options:",
    "  -h, --help       show this help message and exit",
    "  -v, --verbose    Log directory lookups"]

def commandHelp (command : Command) : List String :=
  [usage (some command),
    "",
    "positional arguments:",
    "  config      Path to the configuration file (default:",
    "              $ELASTICACHE_CONFIG_PATH)",
    "",
    "options:",
    "  -h, --help  show this help message and exit"]

def help : Option Command → List String
  | none => programHelp
  | some command => commandHelp command

def complaint (command : Option Command) (error : UsageError) : List Text :=
  [usage command, title command ++ ": error: " ++ error.message]

end Command

end CacheWiring
