namespace CacheWiring

/-- A significand and an exponent in the one form in which double precision stores them. -/
def CanonicalPair (significand : Nat) (exponent : Int) : Prop :=
  significand < Nat.pow 2 53 ∧ -1074 ≤ exponent ∧ exponent ≤ 971 ∧
    (Nat.pow 2 52 ≤ significand ∨ exponent = -1074)

instance (significand : Nat) (exponent : Int) :
    Decidable (CanonicalPair significand exponent) := by
  unfold CanonicalPair; infer_instance

/-- A double: not a number, an infinity, or `± significand · 2 ^ exponent`. The payload of a
not-a-number has no part in arithmetic; it only tells one from another. -/
inductive Binary64 where
  | nan (payload : Nat)
  | infinite (negative : Bool)
  | finite (negative : Bool) (significand : Nat) (exponent : Int)
      (canonical : CanonicalPair significand exponent)
  deriving DecidableEq

namespace Binary64

/-- The quotient rounded to the nearest natural, a half to the even neighbour. -/
def roundQuotient (numerator denominator : Nat) : Nat :=
  let quotient := numerator / denominator
  let twice := 2 * (numerator % denominator)
  if twice < denominator then quotient
  else if denominator < twice then quotient + 1
  else quotient + quotient % 2

def pack (negative : Bool) (significand : Nat) (exponent : Int) : Binary64 :=
  if h : CanonicalPair significand exponent then .finite negative significand exponent h
  else .infinite negative

def zero (negative : Bool) : Binary64 := pack negative 0 (-1074)

def scaled (numerator denominator : Nat) (exponent : Int) : Nat × Nat :=
  if 0 ≤ exponent then (numerator, denominator * Nat.pow 2 exponent.toNat)
  else (numerator * Nat.pow 2 (-exponent).toNat, denominator)

/-- The exponent that leaves 53 bits before the point, or the least one there is. -/
def exponentFor (numerator denominator : Nat) : Int :=
  let guess : Int := (numerator.log2 : Int) - (denominator.log2 : Int) - 52
  let (n, d) := scaled numerator denominator guess
  max (if n / d < Nat.pow 2 52 then guess - 1 else guess) (-1074)

/-- The double nearest to `± numerator / denominator`. -/
def ofRatio (negative : Bool) (numerator denominator : Nat) : Binary64 :=
  if numerator = 0 then zero negative
  else
    let exponent := exponentFor numerator denominator
    let (n, d) := scaled numerator denominator exponent
    let significand := roundQuotient n d
    if significand = Nat.pow 2 53 then pack negative (Nat.pow 2 52) (exponent + 1)
    else pack negative significand exponent

/-- The double nearest to `± digits · 10 ^ exponent`. Beyond four hundred places on either side
the answer is an infinity or zero, and the power is not computed. -/
def ofDecimal (negative : Bool) (digits : Nat) (exponent : Int) : Binary64 :=
  let magnitude : Int := ((Nat.toDigits 10 digits).length : Int) + exponent
  if digits = 0 ∨ magnitude < -400 then zero negative
  else if 400 < magnitude then .infinite negative
  else if 0 ≤ exponent then ofRatio negative (digits * Nat.pow 10 exponent.toNat) 1
  else ofRatio negative digits (Nat.pow 10 (-exponent).toNat)

def ofInt (n : Int) : Binary64 := ofRatio (decide (n < 0)) n.natAbs 1

def ratio (significand : Nat) (exponent : Int) : Nat × Nat := scaled significand 1 (-exponent)

def isNegative : Binary64 → Bool
  | .nan _ => false
  | .infinite negative | .finite negative _ _ _ => negative

def isZero : Binary64 → Bool
  | .finite _ significand _ _ => significand == 0
  | _ => false

def neg : Binary64 → Binary64
  | .nan payload => .nan payload
  | .infinite negative => .infinite (!negative)
  | .finite negative significand exponent h => .finite (!negative) significand exponent h

/-- A not-a-number with another payload; every other double stays as it is. -/
def withPayload (payload : Nat) : Binary64 → Binary64
  | .nan _ => .nan payload
  | x => x

def mul : Binary64 → Binary64 → Binary64
  | .nan payload, _ | _, .nan payload => .nan payload
  | .finite s m e _, .finite t n f _ =>
    let (p, q) := ratio (m * n) (e + f)
    ofRatio (s != t) p q
  | a, b => if a.isZero || b.isZero then .nan 0 else .infinite (a.isNegative != b.isNegative)

/-- A sum that is exactly zero is negative only when both terms are. -/
def add : Binary64 → Binary64 → Binary64
  | .nan payload, _ | _, .nan payload => .nan payload
  | .infinite s, .infinite t => if s = t then .infinite s else .nan 0
  | .infinite s, _ | _, .infinite s => .infinite s
  | .finite s m e _, .finite t n f _ =>
    let least := min e f
    let term (negative : Bool) (significand : Nat) (exponent : Int) : Int :=
      let shifted : Int := (significand * Nat.pow 2 (exponent - least).toNat : Nat)
      if negative then -shifted else shifted
    let sum := term s m e + term t n f
    if sum = 0 then zero (s && t)
    else
      let (p, q) := ratio sum.natAbs least
      ofRatio (decide (sum < 0)) p q

def truncate? : Binary64 → Option Int
  | .finite negative significand exponent _ =>
    let (n, d) := ratio significand exponent
    let whole : Int := (n / d : Nat)
    some (if negative then -whole else whole)
  | _ => none

def isWhole : Binary64 → Bool
  | .finite _ significand exponent _ =>
    let (n, d) := ratio significand exponent
    n % d == 0
  | _ => false

/-- How a double stands to an integer; not a number stands in no order to any. -/
def compareInt : Binary64 → Int → Option Ordering
  | .nan _, _ => none
  | .infinite negative, _ => some (if negative then .lt else .gt)
  | .finite negative significand exponent _, n =>
    let (p, q) := ratio significand exponent
    let signed : Int := if negative then -(p : Int) else p
    some (compare signed (n * q))

end Binary64

end CacheWiring
