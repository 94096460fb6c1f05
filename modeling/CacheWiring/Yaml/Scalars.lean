import CacheWiring.Fault
import CacheWiring.Number.Numeral
import CacheWiring.Text.LowerCase
import CacheWiring.Yaml.Tag

namespace CacheWiring.Yaml

def withoutUnderscores (text : Text) : Text := text.filter (· != '_')

/-- Splits a sign off a number's text, which must not be empty. -/
def signed (text : Text) : Except Fault (Bool × Text) :=
  match text with
  | [] => .error .noCharacter
  | c :: rest =>
    .ok (if c = '-' then (true, rest) else if c = '+' then (false, rest) else (false, text))

def colonParts (text : Text) : List Text := Tag.partsBetween (.ofChar ':') text

def intOf (base : Nat) (text : Text) : Except Fault Int :=
  (Numeral.integer base text).mapError (Fault.ofNumeral base (Text.quoted text))

def floatOf (text : Text) : Except Fault Binary64 :=
  match Numeral.binary64? text with
  | some x => .ok x
  | none => .error (.notFloat text)

/-- Parts between colons count in powers of sixty. -/
def sexagesimal (parts : List Int) : Int := parts.foldl (fun sum part => sum * 60 + part) 0

/-- What follows a mark at the beginning of a text, if the mark stands there. -/
def afterMark? (mark text : Text) : Option Text :=
  if mark.isPrefixOf text then some (text.drop mark.length) else none

def magnitude (text : Text) : Except Fault Int :=
  match afterMark? "0b" text, afterMark? "0x" text, afterMark? "0" text with
  | some rest, _, _ => intOf 2 rest
  | _, some rest, _ => intOf 16 rest
  | _, _, some [] => .ok 0
  | _, _, some _ => intOf 8 text
  | _, _, none =>
    if text.isEmpty then .error .noCharacter
    else if text.contains ':' then ((colonParts text).mapM (intOf 10)).map sexagesimal
    else intOf 10 text

def intScalar (text : Text) : Except Fault Scalar := do
  let (negative, unsigned) ← signed (withoutUnderscores text)
  let n ← magnitude unsigned
  return .int (if negative then -n else n)

def sixties (power : Nat) : Except Fault Binary64 :=
  match Binary64.ofInt (Nat.pow 60 power) with
  | .infinite _ => .error .beyondDoubles
  | x => .ok x

/-- The sum from the last part on, each part times its power of sixty. -/
def sexagesimalFloat (parts : List Binary64) : Except Fault Binary64 :=
  parts.reverse.zipIdx.foldlM (fun sum (part, power) => do
    return sum.add (part.mul (← sixties power))) (Binary64.zero false)

/-- The word for not-a-number stands for one value wherever it is written. A not-a-number that comes
from reading or adding numerals is a value by itself, which its place tells from the others. -/
def floatScalar (place : Nat) (text : Text) : Except Fault Scalar := do
  let (negative, unsigned) ← signed (Text.lowerCase (withoutUnderscores text))
  if unsigned = ".inf" then return .float (.infinite negative)
  if unsigned = ".nan" then return .float (.nan 0)
  let x ←
    if unsigned.contains ':' then
      ((colonParts unsigned).mapM floatOf).bind sexagesimalFloat
    else floatOf unsigned
  return .float ((if negative then x.neg else x).withPayload (place + 1))

def boolScalar (text : Text) : Except Fault Scalar :=
  let word := Text.lowerCase text
  match Tag.boolWords.find? fun entry => word == entry.1 with
  | some (_, b) => .ok (.bool b)
  | none => .error (.missingKey (.str word))

def numberOf (digits : List Char) : Nat := (Numeral.digitsValue? 10 digits).getD 0

/-- The first six digits of a fraction, filled up with zeros. -/
def microseconds (digits : List Char) : Nat :=
  let kept := digits.take 6
  numberOf (kept ++ List.replicate (6 - kept.length) '0')

def zoneOffset : Option Char × List Char × List Char → Int
  | (none, _, _) => 0
  | (some sign, hours, minutes) =>
    let total : Int := (numberOf hours * 60 + numberOf minutes : Nat)
    if sign = '-' then -total else total

def dated (outcome : Except CalendarError Special) : Except Fault Scalar :=
  match outcome with
  | .ok special => .ok (.special special)
  | .error error => .error (.notDate error)

def timestampScalar (text : Text) : Except Fault Scalar :=
  match Tag.date? (Tag.withoutLastBreak text.chars) with
  | none => .error .noFields
  | some d =>
    let year := numberOf d.year
    let month := numberOf d.month
    let day := numberOf d.day
    match d.time with
    | none => dated ((Date.check year month day).map .date)
    | some t =>
      dated ((Timestamp.check year month day (numberOf t.hour) (numberOf t.minute)
        (numberOf t.second) (microseconds t.fraction) (t.zone.map zoneOffset)).map .timestamp)

def sixBits? (c : Char) : Option Nat :=
  if 'A' ≤ c ∧ c ≤ 'Z' then some (c.toNat - 'A'.toNat)
  else if 'a' ≤ c ∧ c ≤ 'z' then some (c.toNat - 'a'.toNat + 26)
  else if c.isDigit then some (c.toNat - '0'.toNat + 52)
  else if c = '+' then some 62
  else if c = '/' then some 63
  else none

/-- Bytes from base-64 text: `held` is how many characters of the current group of four were read,
`bits` their unused bits, `pads` how many padding characters follow them. Characters outside the
alphabet are passed over, and a complete padding ends the text. -/
def base64Bytes (held bits pads : Nat) : List Char → Option (List UInt8)
  | [] => if held = 0 then some [] else none
  | '=' :: rest =>
    if 2 ≤ held ∧ 4 ≤ held + pads + 1 then some []
    else base64Bytes held bits (if 2 ≤ held then pads + 1 else pads) rest
  | c :: rest =>
    match sixBits? c with
    | none => base64Bytes held bits pads rest
    | some six =>
      match held with
      | 0 => base64Bytes 1 six 0 rest
      | 1 => (base64Bytes 2 (six % 16) 0 rest).map ((bits * 4 + six / 16).toUInt8 :: ·)
      | 2 => (base64Bytes 3 (six % 4) 0 rest).map ((bits * 16 + six / 4).toUInt8 :: ·)
      | _ => (base64Bytes 0 0 0 rest).map ((bits * 64 + six).toUInt8 :: ·)

def binaryScalar (text : Text) : Except Fault Scalar :=
  if text.all (·.val < 0x80) then
    match base64Bytes 0 0 0 text.chars with
    | some bytes => .ok (.special (.bytes bytes))
    | none => .error .notYaml
  else .error .notYaml

/-- The value of a scalar at a place under a tag. Tags of collections and unknown tags have none. -/
def taggedScalar (place : Nat) : Tag → Text → Except Fault Scalar
  | .null, _ => .ok .null
  | .bool, text => boolScalar text
  | .int, text => intScalar text
  | .float, text => floatScalar place text
  | .binary, text => binaryScalar text
  | .timestamp, text => timestampScalar text
  | .str, text => .ok (.str text)
  | _, _ => .error .notYaml

end CacheWiring.Yaml
