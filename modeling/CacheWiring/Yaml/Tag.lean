import CacheWiring.Text.Basic

namespace CacheWiring.Yaml

inductive Tag where
  | null
  | bool
  | int
  | float
  | binary
  | timestamp
  | str
  | seq
  | map
  | set
  | pairs
  | merge
  | value
  | other
  deriving DecidableEq

namespace Tag

def isScalar : Tag → Bool
  | .null | .bool | .int | .float | .binary | .timestamp | .str => true
  | _ => false

/-- The namespace of the common tags, also written as two exclamation marks. -/
def commonPrefix : String := "tag:yaml.org,2002:"

def common : List (String × Tag) :=
  [("null", .null), ("bool", .bool), ("int", .int), ("float", .float), ("binary", .binary),
    ("timestamp", .timestamp), ("str", .str), ("seq", .seq), ("map", .map), ("set", .set),
    ("omap", .pairs), ("pairs", .pairs), ("merge", .merge), ("value", .value)]

def ofName (name : String) : Tag :=
  match common.find? fun entry => commonPrefix ++ entry.1 == name with
  | some (_, tag) => tag
  | none => .other

structure WrittenTime where
  hour : List Char
  minute : List Char
  second : List Char
  fraction : List Char
  /-- The sign, hours and minutes of an offset; no sign means universal time. -/
  zone : Option (Option Char × List Char × List Char)

structure WrittenDate where
  year : List Char
  month : List Char
  day : List Char
  time : Option WrittenTime

/-- Between `least` and `most` digits, and the rest. -/
def digits? (least most : Nat) (cs : List Char) : Option (List Char × List Char) :=
  let run := (cs.take most).takeWhile Char.isDigit
  if least ≤ run.length then some (run, cs.drop run.length) else none

def after? (mark : Char) (cs : List Char) : Option (List Char) :=
  match cs with
  | c :: rest => if c = mark then some rest else none
  | [] => none

def isGap (c : Char) : Bool := c == ' ' || c == '\t'

/-- The minutes of an offset after a colon, which may be missing; nothing may follow them. -/
def zoneMinutes? (cs : List Char) : Option (List Char) :=
  match cs with
  | [] => some []
  | _ => do
    let (minutes, rest) ← digits? 2 2 (← after? ':' cs)
    if rest.isEmpty then some minutes else none

def zone? (cs : List Char) : Option (Option (Option Char × List Char × List Char)) :=
  match cs.dropWhile isGap with
  | [] => if cs.isEmpty then some none else none
  | ['Z'] => some (some (none, [], []))
  | sign :: rest =>
    if sign = '+' ∨ sign = '-' then do
      let (hours, rest) ← digits? 1 2 rest
      some (some (some sign, hours, ← zoneMinutes? rest))
    else none

def afterTimeMark? (cs : List Char) : Option (List Char) :=
  match cs with
  | c :: rest =>
    if c = 'T' ∨ c = 't' then some rest
    else if isGap c then some (rest.dropWhile isGap)
    else none
  | [] => none

def time? (cs : List Char) : Option WrittenTime := do
  let (hour, rest) ← digits? 1 2 (← afterTimeMark? cs)
  let (minute, rest) ← digits? 2 2 (← after? ':' rest)
  let (second, rest) ← digits? 2 2 (← after? ':' rest)
  let (fraction, rest) := match rest with
    | '.' :: rest => (rest.takeWhile Char.isDigit, rest.dropWhile Char.isDigit)
    | _ => ([], rest)
  return ⟨hour, minute, second, fraction, ← zone? rest⟩

def date? (cs : List Char) : Option WrittenDate := do
  let (year, rest) ← digits? 4 4 cs
  let (month, rest) ← digits? 1 2 (← after? '-' rest)
  let (day, rest) ← digits? 1 2 (← after? '-' rest)
  if rest.isEmpty then return ⟨year, month, day, none⟩
  else return ⟨year, month, day, some (← time? rest)⟩

/-- A date alone shows as one only when month and day have two digits each. -/
def showsTimestamp (cs : List Char) : Bool :=
  match date? cs with
  | some d => d.time.isSome || (d.month.length == 2 && d.day.length == 2)
  | none => false

def boolWords : List (String × Bool) :=
  [("yes", true), ("no", false), ("true", true), ("false", false), ("on", true), ("off", false)]

/-- A word in lower case, capitalised or in upper case. -/
def spellings (word : String) : List String := [word, word.capitalize, word.toUpper]

def showsBool (text : String) : Bool :=
  boolWords.any fun entry => (spellings entry.1).contains text

def showsNull (text : String) : Bool :=
  text.isEmpty || text == "~" || (spellings "null").contains text

def dropSign (cs : List Char) : List Char :=
  match cs with
  | '+' :: rest | '-' :: rest => rest
  | _ => cs

def isDecimalRun (c : Char) : Bool := c.isDigit || c == '_'

/-- A digit, then digits and underscores. -/
def isDecimal : List Char → Bool
  | [] => false
  | c :: rest => c.isDigit && rest.all isDecimalRun

/-- One or two digits below sixty. -/
def isSixtieth : List Char → Bool
  | [c] => c.isDigit
  | [c, d] => '0' ≤ c && c ≤ '5' && d.isDigit
  | _ => false

def partsBetween {α : Type} [DecidableEq α] (mark : α) (cs : List α) : List (List α) :=
  cs.foldr (fun c parts =>
    match parts with
    | [] => [[c]]
    | part :: rest => if c = mark then [] :: parts else (c :: part) :: rest) [[]]

/-- Parts of which all but the first are sixtieths, at least one of them. -/
def isSexagesimal (first : List Char → Bool) (parts : List (List Char)) : Bool :=
  match parts with
  | head :: rest => first head && !rest.isEmpty && rest.all isSixtieth
  | [] => false

def isPositiveDecimal (cs : List Char) : Bool := isDecimal cs && cs.head? != some '0'

def isHexRun (c : Char) : Bool :=
  isDecimalRun c || ('a' ≤ c && c ≤ 'f') || ('A' ≤ c && c ≤ 'F')

/-- Integers in base two, eight, ten, sixteen and sixty. -/
def showsInt (text : String) : Bool :=
  let cs := dropSign text.toList
  match cs with
  | ['0'] => true
  | '0' :: 'b' :: rest => !rest.isEmpty && rest.all fun c => c == '0' || c == '1' || c == '_'
  | '0' :: 'x' :: rest => !rest.isEmpty && rest.all isHexRun
  | '0' :: rest => rest.all fun c => ('0' ≤ c && c ≤ '7') || c == '_'
  | _ => isPositiveDecimal cs || isSexagesimal isPositiveDecimal (partsBetween ':' cs)

/-- Nothing, or an exponent with a sign and at least one digit. -/
def isExponent : List Char → Bool
  | [] => true
  | mark :: sign :: rest =>
    (mark == 'e' || mark == 'E') && (sign == '+' || sign == '-') && !rest.isEmpty
      && rest.all Char.isDigit
  | _ => false

/-- Numbers with a point, and the words for infinity and not-a-number. -/
def showsFloat (text : String) : Bool :=
  let cs := text.toList
  let unsigned := dropSign cs
  let whole := unsigned.takeWhile (· != '.')
  let afterPoint := (unsigned.dropWhile (· != '.')).drop 1
  let hasPoint := unsigned.contains '.'
  let decimals := afterPoint.dropWhile isDecimalRun
  if whole.isEmpty then
    ["inf", "Inf", "INF"].contains (String.ofList afterPoint) && hasPoint
      || (hasPoint && unsigned.length == cs.length
        && (["nan", "NaN", "NAN"].contains (String.ofList afterPoint)
          || (isDecimal (afterPoint.take 1) && isExponent decimals)))
  else hasPoint && ((isDecimal whole && isExponent decimals)
    || (isSexagesimal isDecimal (partsBetween ':' whole) && decimals.isEmpty))

/-- A text without the line feed at its end, if there is one: patterns may stop before it. -/
def withoutLastBreak (cs : List Char) : List Char :=
  if cs.getLast? = some '\n' then cs.dropLast else cs

/-- The tag that a text without a line feed at its end shows. -/
def ofLine (text : String) : Tag :=
  if showsBool text then .bool
  else if showsFloat text then .float
  else if showsInt text then .int
  else if text == "<<" then .merge
  else if showsNull text then .null
  else if showsTimestamp text.toList then .timestamp
  else if text == "=" then .value
  else if text == "!" || text == "&" || text == "*" then .other
  else .str

/-- The tag of a scalar that has none of its own. A lone line feed shows nothing. -/
def ofPlain (text : Text) : Tag :=
  if text == "\n" then .str else ofLine (String.ofList (withoutLastBreak text.chars))

end Tag

end CacheWiring.Yaml
