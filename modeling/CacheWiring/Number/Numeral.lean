import CacheWiring.Number.Binary64
import CacheWiring.Text.Basic
import CacheWiring.Text.Digit

namespace CacheWiring.Numeral
open Text

inductive IntegerError where
  | malformed
  | tooManyDigits (count : Nat)
  deriving DecidableEq

/-- An integer with more decimal digits than this is neither read nor written. -/
def maxDigits : Nat := 4300

def isWritable (n : Int) : Bool := decide (n.natAbs < Nat.pow 10 maxDigits)

/-- Only bases that are no powers of two have a limit on digits. -/
def hasLimit (base : Nat) : Bool := !([2, 4, 8, 16, 32].contains base)

/-- Outside ASCII, digits of any script become Latin digits, and blanks spaces. -/
def normalize (cs : List Char) : List Char :=
  cs.map fun c =>
    if c.toNat < 0x80 then c
    else if isBlankBeyondAscii c then ' '
    else match decimalDigit? c with
      | some digit => Char.ofNat ('0'.toNat + digit)
      | none => c

def trim (cs : List Char) : List Char :=
  ((cs.dropWhile isAsciiBlank).reverse.dropWhile isAsciiBlank).reverse

/-- Splits a leading sign off; the flag says whether it was a minus. -/
def takeSign : List Char → Bool × List Char
  | '-' :: rest => (true, rest)
  | '+' :: rest => (false, rest)
  | cs => (false, cs)

/-- Removes the underscores that stand singly between two characters; none when one stands
elsewhere or nothing is left. -/
def joinGroups : List Char → Option (List Char)
  | [] => none
  | ['_'] => none
  | [c] => some [c]
  | '_' :: _ => none
  | c :: '_' :: rest => (joinGroups rest).map (c :: ·)
  | c :: rest => (joinGroups rest).map (c :: ·)

def digitsValue? (base : Nat) (cs : List Char) : Option Nat :=
  cs.foldl (fun value c =>
    match value, digitValue? c with
    | some n, some digit => if digit < base then some (n * base + digit) else none
    | _, _ => none) (some 0)

/-- The mark that may stand before digits in base two, eight and sixteen. -/
def dropBaseMark (base : Nat) (cs : List Char) : List Char :=
  let afterMark (lower upper : Char) : List Char :=
    match cs with
    | '0' :: mark :: rest =>
      if mark = lower ∨ mark = upper then
        match rest with
        | '_' :: digits => digits
        | digits => digits
      else cs
    | _ => cs
  match base with
  | 2 => afterMark 'b' 'B'
  | 8 => afterMark 'o' 'O'
  | 16 => afterMark 'x' 'X'
  | _ => cs

def isDigitOf (base : Nat) (c : Char) : Bool := (digitValue? c).any (· < base)

/-- The number in a run of digits and underscores. The digits are counted before anything that
follows them is looked at. -/
def magnitude (base : Nat) (run : List Char) : Except IntegerError Nat :=
  match joinGroups run with
  | none => .error .malformed
  | some digits =>
    if hasLimit base ∧ maxDigits < digits.length then .error (.tooManyDigits digits.length)
    else
      match digitsValue? base digits with
      | some n => .ok n
      | none => .error .malformed

def integer (base : Nat) (text : Text) : Except IntegerError Int := do
  let (negative, unsigned) := takeSign ((normalize text.chars).dropWhile isAsciiBlank)
  let inRun (c : Char) : Bool := isDigitOf base c || c == '_'
  let body := dropBaseMark base unsigned
  let n ← magnitude base (body.takeWhile inRun)
  if (body.dropWhile inRun).all isAsciiBlank then return if negative then -(n : Int) else n
  else throw .malformed

/-- Digits, a point and digits with at least one digit, then perhaps an exponent. -/
def decimal? (negative : Bool) (cs : List Char) : Option Binary64 := do
  let whole := cs.takeWhile Char.isDigit
  let afterWhole := cs.dropWhile Char.isDigit
  let (fraction, rest) := match afterWhole with
    | '.' :: tail => (tail.takeWhile Char.isDigit, tail.dropWhile Char.isDigit)
    | tail => ([], tail)
  guard (!(whole ++ fraction).isEmpty)
  let exponent : Int ← match rest with
    | [] => some 0
    | mark :: tail =>
      if mark = 'e' ∨ mark = 'E' then do
        let (minus, digits) := takeSign tail
        guard (!digits.isEmpty)
        let magnitude ← digitsValue? 10 digits
        some (if minus then -(magnitude : Int) else magnitude)
      else none
  let digits ← digitsValue? 10 (whole ++ fraction)
  return Binary64.ofDecimal negative digits (exponent - fraction.length)

def lower (cs : List Char) : List Char := cs.map Char.toLower

/-- The double nearest to the decimal number that a text writes; infinities and not-a-number are
written as words. -/
def binary64? (text : Text) : Option Binary64 :=
  let (negative, unsigned) := takeSign (trim (normalize text.chars))
  let word := String.ofList (lower unsigned)
  if word = "inf" ∨ word = "infinity" then some (.infinite negative)
  else if word = "nan" then some (.nan 0)
  else decimal? negative unsigned

end CacheWiring.Numeral
