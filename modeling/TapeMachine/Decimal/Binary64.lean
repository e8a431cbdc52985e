/-!
# Floating-point numbers

A floating-point number of 64 bits is kept exactly, as a mantissa times a power of two.
Decimal numerals are rounded to the nearest such number, and a tie goes to the even mantissa.
-/

namespace TapeMachine

/-- A number of the 64-bit binary format. -/
inductive Binary64
  /-- The number with the given sign and magnitude mantissa times two to the exponent. -/
  | finite (negative : Bool) (mantissa : Nat) (exponent : Int)
  /-- An infinity. -/
  | infinite (negative : Bool)
  /-- The result that is no number. -/
  | nan
  deriving DecidableEq, Repr

namespace Binary64

/-- The exponent of the least positive number. -/
def leastExponent : Int := -1074

/-- The exponent of the greatest finite numbers. -/
def greatestExponent : Int := 971

/-- The mantissas of normal numbers start here and end below twice this. -/
def leastNormal : Nat := Nat.pow 2 52

/-- A zero with a sign. -/
def zero (negative : Bool) : Binary64 :=
  finite negative 0 leastExponent

/-- The quotient rounded to the nearest natural number, and to the even one at a tie. -/
def roundQuotient (numerator denominator : Nat) : Nat :=
  let quotient := numerator / denominator
  let remainder := numerator % denominator
  if 2 * remainder < denominator then quotient
  else if denominator < 2 * remainder then quotient + 1
  else if quotient % 2 = 0 then quotient
  else quotient + 1

/-- The exponent at which a positive quotient has a normal mantissa, or the least exponent. -/
def exponentOf (numerator denominator : Nat) : Int :=
  let guess : Int := (numerator.log2 : Int) - denominator.log2 - 52
  let fits :=
    denominator * Nat.pow 2 guess.toNat * leastNormal ≤ numerator * Nat.pow 2 (-guess).toNat
  max leastExponent (if fits then guess else guess - 1)

/-- The number nearest to a quotient of naturals, with a sign. -/
def ofRatio (negative : Bool) (numerator denominator : Nat) : Binary64 :=
  if numerator = 0 then zero negative
  else
    let exponent := exponentOf numerator denominator
    let mantissa :=
      roundQuotient (numerator * Nat.pow 2 (-exponent).toNat)
        (denominator * Nat.pow 2 exponent.toNat)
    let (mantissa, exponent) :=
      if mantissa = 2 * leastNormal then (leastNormal, exponent + 1) else (mantissa, exponent)
    if greatestExponent < exponent then infinite negative
    else finite negative mantissa exponent

/--
The number nearest to a decimal numeral: a natural number times a power of ten.  Magnitudes
far outside the range of the format are recognised by the number of their digits.
-/
def ofDecimal (negative : Bool) (digits : Nat) (exponent : Int) : Binary64 :=
  if digits = 0 then zero negative
  else
    let scale : Int := (Nat.toDigits 10 digits).length + exponent
    if 320 < scale then infinite negative
    else if scale < -340 then zero negative
    else ofRatio negative (digits * Nat.pow 10 exponent.toNat) (Nat.pow 10 (-exponent).toNat)

/-- The integer part of a finite number. -/
def truncate? : Binary64 → Option Int
  | finite negative mantissa exponent =>
    let magnitude : Int := mantissa * Nat.pow 2 exponent.toNat / Nat.pow 2 (-exponent).toNat
    some (if negative then -magnitude else magnitude)
  | _ => none

/-- A finite number as a quotient of an integer and a positive natural number. -/
def toRatio? : Binary64 → Option (Int × Nat)
  | finite negative mantissa exponent =>
    let numerator : Int := mantissa * Nat.pow 2 exponent.toNat
    some (if negative then -numerator else numerator, Nat.pow 2 (-exponent).toNat)
  | _ => none

/-- Whether a number is exactly an integer. -/
def equalsInt (number : Binary64) (integer : Int) : Bool :=
  match number.toRatio? with
  | some (numerator, denominator) => numerator == integer * denominator
  | none => false

/-- Equality of numbers: the two zeros are equal, and a result that is no number equals none. -/
def same : Binary64 → Binary64 → Bool
  | finite negative mantissa exponent, finite negative' mantissa' exponent' =>
    mantissa == mantissa' && exponent == exponent' && (negative == negative' || mantissa == 0)
  | infinite negative, infinite negative' => negative == negative'
  | _, _ => false

/-- The sum of two finite numbers, rounded once. -/
def addRounded (left right : Binary64) : Binary64 :=
  match left.toRatio?, right.toRatio? with
  | some (a, b), some (c, d) =>
    let numerator := a * d + c * b
    ofRatio (numerator < 0) numerator.natAbs (b * d)
  | _, _ => nan

/-- A finite number times a natural number, rounded once. -/
def scaleRounded (number : Binary64) (factor : Nat) : Binary64 :=
  match number.toRatio? with
  | some (a, b) => ofRatio (a < 0) (a.natAbs * factor) b
  | none => nan

end Binary64
end TapeMachine
