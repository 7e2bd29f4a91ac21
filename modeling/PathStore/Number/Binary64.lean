/-
This file holds the numbers of the 64-bit binary format, with rounding to nearest and ties to even.
-/

namespace PathStore

/-- A number of the format; a finite one is its significand times a power of two. -/
inductive Binary64 where
  | finite (negative : Bool) (significand : Nat) (exponent : Int)
  | infinite (negative : Bool)
  | nan
  deriving DecidableEq, Repr

namespace Binary64

/-- The least exponent of the format. -/
def leastExponent : Int := -1074

/-- The greatest exponent of the format. -/
def greatestExponent : Int := 971

def zero : Binary64 := .finite false 0 leastExponent

/-- The integer nearest to a quotient of numbers; a half goes to the even neighbour. -/
def divideToEven (numerator denominator : Nat) : Nat :=
  let quotient := numerator / denominator
  let twice := 2 * (numerator % denominator)
  if twice < denominator then quotient
  else if denominator < twice then quotient + 1
  else quotient + quotient % 2

/-- The exponent at which a quotient of positive numbers has fifty-three bits before the point. -/
def normalExponent (numerator denominator : Nat) : Int :=
  let estimate : Int := (numerator.log2 : Int) - denominator.log2 - 52
  let scaled := if 0 ≤ estimate then denominator * Nat.pow 2 (estimate.toNat + 52)
    else denominator * Nat.pow 2 52
  let compared := if 0 ≤ estimate then numerator else numerator * Nat.pow 2 (-estimate).toNat
  if compared < scaled then estimate - 1 else estimate

/-- The quotient of a number by a power of two, to the nearest integer. -/
def divideByPower (numerator denominator : Nat) (exponent : Int) : Nat :=
  if 0 ≤ exponent then divideToEven numerator (denominator * Nat.pow 2 exponent.toNat)
  else divideToEven (numerator * Nat.pow 2 (-exponent).toNat) denominator

/-- The number of the format nearest to a quotient, with the given sign; too great a quotient is infinite. -/
def ofRatio (negative : Bool) (numerator denominator : Nat) : Binary64 :=
  if numerator = 0 then .finite negative 0 leastExponent
  else
    let exponent := max leastExponent (normalExponent numerator denominator)
    let significand := divideByPower numerator denominator exponent
    let (significand, exponent) :=
      if significand = Nat.pow 2 53 then (Nat.pow 2 52, exponent + 1) else (significand, exponent)
    if greatestExponent < exponent then .infinite negative else .finite negative significand exponent

/-- The number of the format nearest to a rational. -/
def ofRat (value : Rat) : Binary64 := ofRatio (value.num < 0) value.num.natAbs value.den

/-- The number of the format nearest to an integer. -/
def ofInt (value : Int) : Binary64 := ofRatio (value < 0) value.natAbs 1

/-- The number of the format nearest to an integer times a power of ten. -/
def ofDecimal (negative : Bool) (digits : Nat) (exponent : Int) : Binary64 :=
  let magnitude : Int := exponent + digits.log2 / 3
  if digits = 0 then .finite negative 0 leastExponent
  else if exponent > 400 then .infinite negative
  else if magnitude < -1000 then .finite negative 0 leastExponent
  else if 0 ≤ exponent then ofRatio negative (digits * Nat.pow 10 exponent.toNat) 1
  else ofRatio negative digits (Nat.pow 10 (-exponent).toNat)

/-- The value of a finite number. -/
def toRat? : Binary64 → Option Rat
  | .finite negative significand exponent =>
      let magnitude : Rat :=
        if 0 ≤ exponent then ((significand * Nat.pow 2 exponent.toNat : Nat) : Rat)
        else mkRat significand (Nat.pow 2 (-exponent).toNat)
      some (if negative then -magnitude else magnitude)
  | _ => none

def isFinite : Binary64 → Bool
  | .finite .. => true
  | _ => false

/-- The product with a positive rational, rounded once. -/
def scaled (number : Binary64) (factor : Rat) : Binary64 :=
  match number, number.toRat? with
  | .finite negative _ _, some value => ofRatio negative (value * factor).num.natAbs (value * factor).den
  | other, _ => other

/-- The difference, rounded once. -/
def minus : Binary64 → Binary64 → Binary64
  | .nan, _ => .nan
  | _, .nan => .nan
  | .infinite left, .infinite right => if left = right then .nan else .infinite left
  | .infinite left, _ => .infinite left
  | _, .infinite right => .infinite (!right)
  | left, right =>
      match left.toRat?, right.toRat? with
      | some first, some second => ofRat (first - second)
      | _, _ => .nan

/-- The integer toward zero, of a finite number. -/
def truncate? (number : Binary64) : Option Int :=
  number.toRat?.map fun value => value.num.tdiv value.den

/-- No number that is not a number is at most zero. -/
def isAtMostZero : Binary64 → Bool
  | .finite negative significand _ => negative || significand = 0
  | .infinite negative => negative
  | .nan => false

/-- Whether a number is less than a bound; what is not a number is not. -/
def isBelow (number : Binary64) (bound : Rat) : Bool :=
  match number with
  | .nan => false
  | .infinite negative => negative
  | .finite .. => number.toRat?.any (· < bound)

/-- Zero of either sign. -/
def isZero : Binary64 → Bool
  | .finite _ significand _ => significand = 0
  | _ => false

end Binary64
end PathStore
