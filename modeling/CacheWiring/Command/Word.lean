import CacheWiring.Text.Basic
import CacheWiring.Text.Digit

namespace CacheWiring

inductive Flag where
  | help
  | verbose
  deriving DecidableEq

def Flag.letter : Flag → Char
  | .help => 'h'
  | .verbose => 'v'

def Flag.longName : Flag → String
  | .help => "--help"
  | .verbose => "--verbose"

def Flag.label (f : Flag) : String := String.ofList ['-', f.letter] ++ "/" ++ f.longName

inductive UsageError where
  | ambiguousOption (word : Text) (candidates : List Flag)
  | ignoredValue (flag : Flag) (value : Text)
  | commandMissing
  | unknownCommand (word : Text)
  | unrecognized (words : List Text)

/-- The form in which an option was written: by its letter, with what follows the letter in the
same word, or by its long name, with what follows an equals sign. An equals sign directly after the
letter is left out of what follows it. -/
inductive Spelling where
  | letter (following : Option Text)
  | longName (value : Option Text)

inductive Role where
  | plain
  | separator
  | unknownOption
  | option (flag : Flag) (spelling : Spelling)

structure Word where
  text : Text
  role : Role

def separatorText : String := "--"

namespace Word

def candidates (known : List Flag) (start : Text) : List Flag :=
  known.filter fun flag => start.isPrefixOf flag.longName

/-- A negative number, with or without a whole part; a line end after it does not count. -/
def isNegativeNumber (cs : List Char) : Bool :=
  let isDecimal (c : Char) : Bool := (Text.decimalDigit? c).isSome
  match if cs.getLast? = some '\n' then cs.dropLast else cs with
  | '-' :: digits =>
    match digits.dropWhile isDecimal with
    | [] => !digits.isEmpty
    | '.' :: fraction => !fraction.isEmpty && fraction.all isDecimal
    | _ => false
  | _ => false

/-- A word that names no flag: numbers and words with a space in them still stand for themselves. -/
def roleOfOther (text : Text) : Role :=
  if isNegativeNumber text.chars || text.contains ' ' then .plain else .unknownOption

def equalsSign : CodePoint := '='

def splitValue (text : Text) : Text × Option Text :=
  match text.dropWhile (· ≠ equalsSign) with
  | [] => (text, none)
  | _ :: value => (text.takeWhile (· ≠ equalsSign), some value)

/-- A long name may be cut short as long as only one flag is meant. -/
def roleOfLong (known : List Flag) (text : Text) : Except UsageError Role :=
  let (name, value) := splitValue text
  match candidates known name with
  | [] => .ok (roleOfOther text)
  | [flag] => .ok (.option flag (.longName value))
  | several => .error (.ambiguousOption text several)

def followingLetter : Text → Option Text
  | [] => none
  | c :: rest => some (if c = equalsSign then rest else c :: rest)

def roleFor (known : List Flag) (text : Text) : Except UsageError Role :=
  if ("--" : Text).isPrefixOf text then roleOfLong known text
  else
    match text with
    | mark :: c :: rest =>
      if mark ≠ '-' then .ok .plain
      else
        match known.find? fun flag => c = flag.letter with
        | some flag => .ok (.option flag (.letter (followingLetter rest)))
        | none => .ok (roleOfOther text)
    | _ => .ok .plain

def ofTexts (known : List Flag) : List Text → Except UsageError (List Word)
  | [] => .ok []
  | text :: rest =>
    if text = separatorText then .ok (⟨text, .separator⟩ :: rest.map fun other => ⟨other, .plain⟩)
    else do
      let first ← roleFor known text
      let others ← ofTexts known rest
      return ⟨text, first⟩ :: others

end Word

/-- The flags of letters that follow one another in a word. No flag takes a value, so every letter
has to name one. -/
def Flag.run (known : List Flag) (flag : Flag) : Text → Except UsageError (List Flag)
  | [] => .ok [flag]
  | c :: rest =>
    match known.find? fun other => c = other.letter with
    | some next => (Flag.run known next rest).map (flag :: ·)
    | none => .error (.ignoredValue flag (c :: rest))

def Spelling.flags (known : List Flag) (flag : Flag) : Spelling → Except UsageError (List Flag)
  | .letter none | .longName none => .ok [flag]
  | .letter (some (c :: rest)) => Flag.run known flag (c :: rest)
  | .letter (some []) => .error (.ignoredValue flag [])
  | .longName (some value) => .error (.ignoredValue flag value)

end CacheWiring
