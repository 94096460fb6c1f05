import CacheWiring.Fault

namespace CacheWiring.Json

/-- How deep arrays and objects may nest. -/
def maxDepth : Nat := 985

def isSpace (c : Char) : Bool := c == ' ' || c == '\t' || c == '\n' || c == '\r'

def skipSpace (cs : List Char) : List Char := cs.dropWhile isSpace

def after? (word : String) (cs : List Char) : Option (List Char) :=
  if word.toList.isPrefixOf cs then some (cs.drop word.length) else none

def hexValue? (cs : List Char) : Option Nat :=
  if cs.length = 4 ∧ cs.all (fun c => Text.digitValue? c |>.any (· < 16)) then
    Numeral.digitsValue? 16 cs
  else none

/-- A code point given after `\u`; two halves of a surrogate pair make one character. -/
def escapedCode? (cs : List Char) : Option (CodePoint × List Char) := do
  let high ← hexValue? (cs.take 4)
  let rest := cs.drop 4
  let alone := (CodePoint.ofNat high, rest)
  if 0xD800 ≤ high ∧ high ≤ 0xDBFF then
    match rest with
    | '\\' :: 'u' :: tail =>
      match hexValue? (tail.take 4) with
      | some low =>
        if 0xDC00 ≤ low ∧ low ≤ 0xDFFF then
          some (.ofNat (0x10000 + (high - 0xD800) * 0x400 + (low - 0xDC00)), tail.drop 4)
        else some alone
      | none => some alone
    | _ => some alone
  else some alone

def simpleEscape? : Char → Option Char
  | '"' => some '"'
  | '\\' => some '\\'
  | '/' => some '/'
  | 'b' => some '\x08'
  | 'f' => some '\x0c'
  | 'n' => some '\n'
  | 'r' => some '\r'
  | 't' => some '\t'
  | _ => none

/-- The text up to the closing quote after what was already read, the last of which is the first of
`done`, and what follows the quote. -/
def string? : Nat → Text → List Char → Option (Text × List Char)
  | 0, _, _ => none
  | fuel + 1, done, cs =>
    match cs with
    | [] => none
    | '"' :: rest => some (done.reverse, rest)
    | '\\' :: 'u' :: rest => do
      let (c, rest) ← escapedCode? rest
      string? fuel (c :: done) rest
    | '\\' :: mark :: rest => do
      let c ← simpleEscape? mark
      string? fuel (.ofChar c :: done) rest
    | c :: rest =>
      if c = '\\' ∨ c.toNat < 0x20 then none else string? fuel (.ofChar c :: done) rest

def string (fuel : Nat) (cs : List Char) : Except Fault (Text × List Char) :=
  match string? fuel [] cs with
  | some found => .ok found
  | none => .error .notJson

def isDigit (c : Char) : Bool := c.isDigit

/-- The fraction after a whole number: a point and at least one digit, or nothing. -/
def fraction (cs : List Char) : List Char × List Char :=
  match cs with
  | '.' :: tail =>
    let digits := tail.takeWhile isDigit
    if digits.isEmpty then ([], cs) else (digits, tail.dropWhile isDigit)
  | _ => ([], cs)

/-- The exponent of ten: a mark, perhaps a sign, and at least one digit, or nothing. -/
def exponent? (cs : List Char) : Option (Int × List Char) :=
  match cs with
  | mark :: tail =>
    if mark = 'e' ∨ mark = 'E' then
      let (negative, digits) := Numeral.takeSign tail
      match digits.takeWhile isDigit with
      | [] => none
      | shown =>
        let magnitude : Int := ((Numeral.digitsValue? 10 shown).getD 0 : Nat)
        some (if negative then -magnitude else magnitude, digits.dropWhile isDigit)
    else none
  | [] => none

def integer (negative : Bool) (digits : List Char) : Except Fault Value := do
  let shown := Text.quoted (Text.ofChars digits)
  let n ← (Numeral.magnitude 10 digits).mapError (Fault.ofNumeral 10 shown)
  return .int (if negative then -(n : Int) else n)

def double (negative : Bool) (whole decimals : List Char) (power : Int) : Value :=
  let digits := (Numeral.digitsValue? 10 (whole ++ decimals)).getD 0
  .float (.ofDecimal negative digits (power - decimals.length))

def number (cs : List Char) : Except Fault (Value × List Char) := do
  let (negative, unsigned) := match cs with
    | '-' :: rest => (true, rest)
    | _ => (false, cs)
  let whole := match unsigned with
    | '0' :: _ => ['0']
    | _ => unsigned.takeWhile isDigit
  if whole.isEmpty then throw .notJson
  let (decimals, rest) := fraction (unsigned.drop whole.length)
  match decimals, exponent? rest with
  | [], none => return (← integer negative whole, rest)
  | _, none => return (double negative whole decimals 0, rest)
  | _, some (power, rest) => return (double negative whole decimals power, rest)

def words : List (String × Value) :=
  [("null", .null), ("true", .bool true), ("false", .bool false), ("NaN", .float (.nan 0)),
    ("Infinity", .float (.infinite false)), ("-Infinity", .float (.infinite true))]

def word? (cs : List Char) : Option (Value × List Char) :=
  words.findSome? fun (word, value) => (after? word cs).map (value, ·)

def deeper (room : Nat) (kind : Nesting) : Except Fault Nat :=
  match room with
  | 0 => .error (.tooDeep kind)
  | room + 1 => .ok room

mutual

/-- A value inside so many arrays and objects that `room` more may come. -/
def value : Nat → Nat → List Char → Except Fault (Value × List Char)
  | 0, _, _ => .error .notJson
  | fuel + 1, room, cs =>
    match cs with
    | '"' :: rest => do
      let (text, rest) ← string fuel rest
      return (.str text, rest)
    | '[' :: rest => do
      let room ← deeper room .array
      match skipSpace rest with
      | ']' :: rest => return (.list [], rest)
      | rest =>
        let (items, rest) ← items fuel room [] rest
        return (.list items, rest)
    | '\x7b' :: rest => do
      let room ← deeper room .object
      match skipSpace rest with
      | '\x7d' :: rest => return (.dict [], rest)
      | rest =>
        let (entries, rest) ← entries fuel room [] rest
        return (Value.ofEntries entries, rest)
    | cs =>
      match word? cs with
      | some found => .ok found
      | none => number cs

/-- The items of an array after those already read, the last of which is the first of `done`. -/
def items : Nat → Nat → List Value → List Char → Except Fault (List Value × List Char)
  | 0, _, _, _ => .error .notJson
  | fuel + 1, room, done, cs => do
    let (item, rest) ← value fuel room (skipSpace cs)
    match skipSpace rest with
    | ']' :: rest => return ((item :: done).reverse, rest)
    | ',' :: rest => items fuel room (item :: done) rest
    | _ => throw .notJson

def entries : Nat → Nat → List (Scalar × Value) → List Char →
    Except Fault (List (Scalar × Value) × List Char)
  | 0, _, _, _ => .error .notJson
  | fuel + 1, room, done, cs => do
    let (key, rest) ← match skipSpace cs with
      | '"' :: rest => string fuel rest
      | _ => throw .notJson
    let rest ← match skipSpace rest with
      | ':' :: rest => pure rest
      | _ => throw .notJson
    let (found, rest) ← value fuel room (skipSpace rest)
    let entry := (Scalar.str key, found)
    match skipSpace rest with
    | '\x7d' :: rest => return ((entry :: done).reverse, rest)
    | ',' :: rest => entries fuel room (entry :: done) rest
    | _ => throw .notJson

end

def read (text : String) : Except Fault Value := do
  let cs := skipSpace text.toList
  let (found, rest) ← value (2 * cs.length + 2) maxDepth cs
  if (skipSpace rest).isEmpty then return found else throw .notJson

end CacheWiring.Json
