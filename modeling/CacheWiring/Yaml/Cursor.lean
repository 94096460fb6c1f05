import CacheWiring.Yaml.Source

namespace CacheWiring.Yaml

def byteOrderMark : Char := '\uFEFF'

def isBreak (c : Char) : Bool :=
  c == '\n' || c == '\r' || c == '\x85' || c == '\u2028' || c == '\u2029'

/-- The end of the text reads as the null character, which no text contains. -/
def endMark : Char := '\x00'

def isBreakOrEnd (c : Char) : Bool := c == endMark || isBreak c

def isSpaceOrEnd (c : Char) : Bool := c == ' ' || isBreakOrEnd c

def isBlankOrEnd (c : Char) : Bool := c == '\t' || isSpaceOrEnd c

/-- Letters, digits, hyphen and underscore, of which the names of anchors and directives consist. -/
def isNameChar (c : Char) : Bool := c.isAlphanum || c == '-' || c == '_'

def isHexDigit (c : Char) : Bool := (Text.digitValue? c).any (· < 16)

/-- A place in a text of which `rest` is left. Reading on past these characters meets the fault
`behind`, if there is one, or else the end of the text. -/
structure Cursor where
  rest : List Char
  behind : Option Fault
  /-- How many characters are left. -/
  left : Nat
  index : Nat
  line : Nat
  column : Nat

namespace Cursor

def start (s : Source) : Cursor := ⟨s.chars, s.behind, s.chars.length, 0, 0, 0⟩

/-- Makes sure that so many characters can be looked at. -/
def need (c : Cursor) (count : Nat) : Except Fault Unit :=
  match c.behind with
  | some fault => if c.left < count then .error fault else .ok ()
  | none => .ok ()

def ahead (c : Cursor) (count : Nat) : Except Fault (List Char) := do
  c.need count
  return c.rest.take count

def peek (c : Cursor) (places : Nat) : Except Fault Char := do
  c.need (places + 1)
  return (c.rest[places]?).getD endMark

/-- The character here, which has been looked at in coming here. -/
def head (c : Cursor) : Char := c.rest.headD endMark

/-- Past one character. A carriage return before a line feed does not end the line by itself, and a
byte order mark takes no column. -/
def passOne (c : Cursor) : Cursor :=
  match c.rest with
  | [] => c
  | ch :: tail =>
    let passed : Cursor := { c with rest := tail, left := c.left - 1, index := c.index + 1 }
    if isBreak ch && !(ch == '\r' && tail.head? == some '\n') then
      { passed with line := c.line + 1, column := 0 }
    else if ch == byteOrderMark then passed
    else { passed with column := c.column + 1 }

def pass (c : Cursor) : Nat → Cursor
  | 0 => c
  | n + 1 => c.passOne.pass n

def skip (c : Cursor) (count : Nat) : Except Fault Cursor := do
  c.need (count + 1)
  return c.pass count

def next (c : Cursor) : Except Fault Cursor := c.skip 1

/-- The longest run of characters of a class, and the place after it. -/
def span (c : Cursor) (p : Char → Bool) : Except Fault (List Char × Cursor) := do
  let run := c.rest.takeWhile p
  return (run, ← c.skip run.length)

def skipWhile (c : Cursor) (p : Char → Bool) : Except Fault Cursor := (·.2) <$> c.span p

def skipSpaces (c : Cursor) : Except Fault Cursor := c.skipWhile (· == ' ')

/-- Past a comment, if one begins here. -/
def skipComment (c : Cursor) : Except Fault Cursor :=
  if c.head == '#' then c.skipWhile (!isBreakOrEnd ·) else .ok c

/-- The text of a line break, a line feed for all but the two Unicode separators, and the place
after it; nothing when there is no break. -/
def lineBreak (c : Cursor) : Except Fault (List Char × Cursor) := do
  let ch := c.head
  if ch == '\r' && (← c.peek 1) == '\n' then return (['\n'], ← c.skip 2)
  else if ch == '\n' || ch == '\r' || ch == '\x85' then return (['\n'], ← c.next)
  else if ch == '\u2028' || ch == '\u2029' then return ([ch], ← c.next)
  else return ([], c)

def hexDigits (c : Cursor) (count : Nat) : Except Fault (List Char) := do
  let digits := (c.rest.take count).takeWhile isHexDigit
  c.need (min (digits.length + 1) count)
  if digits.length = count then return digits else throw .notYaml

/-- Whether a document marker, three equal characters before a blank, stands here. -/
def isMarker (c : Cursor) (mark : Char) : Except Fault Bool := do
  if (← c.ahead 3) == [mark, mark, mark] then return isBlankOrEnd (← c.peek 3) else return false

def isAnyMarker (c : Cursor) : Except Fault Bool := do
  if ← c.isMarker '-' then return true else c.isMarker '.'

/-- The rest of a line that may hold nothing but a comment. -/
def skipLineEnd (c : Cursor) : Except Fault Cursor := do
  let c ← (← c.skipSpaces).skipComment
  if isBreakOrEnd c.head then return (← c.lineBreak).2 else throw .notYaml

end Cursor

end CacheWiring.Yaml
