import CacheWiring.Number.Binary64

namespace CacheWiring.Binary64

structure Decimal where
  digits : Nat
  exponent : Int
  deriving DecidableEq

/-- How many digits stand before the point in `numerator / denominator`; zero or less when the
number is below one tenth of a unit. -/
def placesBefore (numerator denominator : Nat) : Int :=
  let guess : Int :=
    ((Nat.toDigits 10 numerator).length : Int) - ((Nat.toDigits 10 denominator).length : Int)
  let reaches : Bool :=
    if 0 ≤ guess then decide (denominator * Nat.pow 10 guess.toNat ≤ numerator)
    else decide (denominator ≤ numerator * Nat.pow 10 (-guess).toNat)
  if reaches then guess + 1 else guess

def perPower (numerator denominator : Nat) (exponent : Int) : Nat × Nat :=
  if 0 ≤ exponent then (numerator, denominator * Nat.pow 10 exponent.toNat)
  else (numerator * Nat.pow 10 (-exponent).toNat, denominator)

/-- The neighbours of a number on the grid of `count` digits that read back as `x`, nearest first;
at equal distance the even one is first. -/
def readBack (x : Binary64) (numerator denominator count : Nat) : List Decimal :=
  let exponent := placesBefore numerator denominator - count
  let (n, d) := perPower numerator denominator exponent
  let low := n / d
  let near := roundQuotient n d
  let far := if near = low then low + 1 else low
  ([near, far].map fun digits => (⟨digits, exponent⟩ : Decimal)).filter fun c =>
    decide (ofDecimal x.isNegative c.digits c.exponent = x)

/-- The first grid, from `count` digits on, that holds a number reading back as `x`. -/
def searchGrids (x : Binary64) (numerator denominator : Nat) : Nat → Nat → Option Decimal
  | 0, _ => none
  | tries + 1, count =>
    match readBack x numerator denominator count with
    | found :: _ => some found
    | [] => searchGrids x numerator denominator tries (count + 1)

/-- Seventeen digits tell any two doubles apart. -/
def shortest? (x : Binary64) : Option Decimal :=
  match x with
  | .finite _ significand exponent _ =>
    if significand = 0 then some ⟨0, 0⟩
    else
      let (n, d) := ratio significand exponent
      searchGrids x n d 17 1
  | _ => none

/-- Drops zeros from the end of a list of digits, keeping at least one digit. -/
def trimZeros (digits : List Char) : List Char :=
  match (digits.reverse.dropWhile (· == '0')).reverse with
  | [] => ['0']
  | trimmed => trimmed

/-- The exponent is written with a sign and at least two digits. -/
def exponentText (exponent : Int) : String :=
  let digits := toString exponent.natAbs
  let sign := if exponent < 0 then "-" else "+"
  "e" ++ sign ++ (if digits.length < 2 then "0" ++ digits else digits)

/-- A decimal is written positionally, with at least one digit after the point, from `10 ^ -4` up
to below `10 ^ 16`, and with an exponent outside that range. -/
def Decimal.text (x : Decimal) : String :=
  let written := Nat.toDigits 10 x.digits
  let point : Int := (written.length : Int) + x.exponent
  let digits := trimZeros written
  let count := digits.length
  if x.digits = 0 then "0.0"
  else if -4 < point ∧ point ≤ 16 then
    if point ≤ 0 then
      "0." ++ String.ofList (List.replicate (-point).toNat '0' ++ digits)
    else if (count : Int) ≤ point then
      String.ofList (digits ++ List.replicate (point - count).toNat '0') ++ ".0"
    else
      String.ofList (digits.take point.toNat) ++ "." ++ String.ofList (digits.drop point.toNat)
  else
    let fraction := digits.drop 1
    String.ofList (digits.take 1) ++
      (if fraction.isEmpty then "" else "." ++ String.ofList fraction) ++ exponentText (point - 1)

def text (x : Binary64) : String :=
  match x with
  | .nan _ => "nan"
  | .infinite negative => if negative then "-inf" else "inf"
  | .finite negative _ _ _ =>
    let digits := match x.shortest? with
      | some decimal => decimal.text
      | none => ""
    if negative then "-" ++ digits else digits

end CacheWiring.Binary64
