import CacheWiring.Command.Word

namespace CacheWiring

inductive Command where
  | resolve
  | check
  deriving DecidableEq

def Command.name : Command → String
  | .resolve => "resolve"
  | .check => "check"

def Command.all : List Command := [.resolve, .check]

structure Invocation where
  command : Command
  path : Option Text
  verbose : Bool

inductive Interruption where
  | help
  | misuse (error : UsageError)

/-- An interruption by the program itself or by one of its commands. -/
structure Ending where
  command : Option Command
  cause : Interruption

structure Arguments where
  path : Option Text
  surplus : List Text

/-- Whether an option asks for the log. A request for help ends the reading. -/
def Spelling.asksForLog (known : List Flag) (flag : Flag) (spelling : Spelling) :
    Except Interruption Bool :=
  match spelling.flags known flag with
  | .error error => .error (.misuse error)
  | .ok flags => if flags.contains .help then .error .help else .ok (flags.contains .verbose)

namespace Command

def flags : List Flag := [.help]

/-- The first plain word is the path. A separator next to it says only that it is plain. -/
def arguments (path : Option Text) (surplus : List Text) :
    List Word → Except Interruption Arguments
  | [] => .ok ⟨path, surplus⟩
  | ⟨text, .plain⟩ :: ⟨between, .separator⟩ :: rest =>
    match path with
    | none => arguments (some text) surplus rest
    | some _ => arguments path (surplus ++ [text, between]) rest
  | ⟨text, .plain⟩ :: rest =>
    match path with
    | none => arguments (some text) surplus rest
    | some _ => arguments path (surplus ++ [text]) rest
  | ⟨text, .separator⟩ :: rest =>
    match path with
    | none => arguments none surplus rest
    | some _ => arguments path (surplus ++ [text]) rest
  | ⟨text, .unknownOption⟩ :: rest => arguments path (surplus ++ [text]) rest
  | ⟨_, .option flag spelling⟩ :: rest => do
    let _ ← spelling.asksForLog flags flag
    arguments path surplus rest

def argumentsOf (texts : List Text) : Except Interruption Arguments :=
  match Word.ofTexts flags texts with
  | .error error => .error (.misuse error)
  | .ok words => arguments none [] words

end Command

namespace Invocation

def flags : List Flag := [.help, .verbose]

def interrupted (command : Option Command) (cause : Interruption) : Except Ending Invocation :=
  .error ⟨command, cause⟩

def misused (error : UsageError) : Except Ending Invocation := interrupted none (.misuse error)

def ofCommand (verbose : Bool) (surplus : List Text) (name : Text) (rest : List Word) :
    Except Ending Invocation :=
  match Command.all.find? fun command => name = command.name with
  | none => misused (.unknownCommand name)
  | some command =>
    match Command.argumentsOf (rest.map Word.text) with
    | .error cause => interrupted (some command) cause
    | .ok found =>
      match surplus ++ found.surplus with
      | [] => .ok ⟨command, found.path, verbose⟩
      | words => misused (.unrecognized words)

/-- The first plain word is the command; a separator with words after it stands in its place. -/
def ofWords (verbose : Bool) (surplus : List Text) : List Word → Except Ending Invocation
  | [] => misused .commandMissing
  | [⟨_, .separator⟩] => misused .commandMissing
  | ⟨text, .separator⟩ :: _ => misused (.unknownCommand text)
  | ⟨text, .plain⟩ :: rest => ofCommand verbose surplus text rest
  | ⟨text, .unknownOption⟩ :: rest => ofWords verbose (surplus ++ [text]) rest
  | ⟨_, .option flag spelling⟩ :: rest =>
    match spelling.asksForLog flags flag with
    | .error cause => interrupted none cause
    | .ok asked => ofWords (verbose || asked) surplus rest

/-- All words get their roles before the first of them counts. -/
def ofTexts (texts : List Text) : Except Ending Invocation :=
  match Word.ofTexts flags texts with
  | .error error => misused error
  | .ok words => ofWords false [] words

end Invocation

end CacheWiring
