import TapeMachine.Decimal.Binary64

/-!
# Shortest decimals

A floating-point number stands for the interval of reals that round to it.  It is written
with the fewest decimal digits that lie in this interval, and among those with the digits
nearest to it.
-/

namespace TapeMachine
namespace Decimal

/-- A natural number times a power of ten. -/
structure Numeral where
  /-- The significant digits. -/
  digits : Nat
  /-- The power of ten by which they are scaled. -/
  exponent : Int
  deriving DecidableEq, Repr

/-- Compares a natural times a power of ten with a natural times a power of two. -/
def compareScaled (digits : Nat) (tens : Int) (mantissa : Nat) (twos : Int) : Ordering :=
  compare (digits * Nat.pow 10 tens.toNat * Nat.pow 2 (-twos).toNat)
    (mantissa * Nat.pow 2 twos.toNat * Nat.pow 10 (-tens).toNat)

/-- The gap below the least normal mantissa is half the gap above it. -/
def narrowBelow (mantissa : Nat) (exponent : Int) : Bool :=
  mantissa == Binary64.leastNormal && Binary64.leastExponent < exponent

/--
A numeral reads back as a mantissa and exponent when it lies between the midpoints to the two
neighbours; the midpoints themselves count when the mantissa is even.
-/
def readsBack (mantissa : Nat) (exponent : Int) (numeral : Numeral) : Bool :=
  let low := if narrowBelow mantissa exponent then 4 * mantissa - 1 else 4 * mantissa - 2
  let high := 4 * mantissa + 2
  let ends := mantissa % 2 == 0
  let fromLow := compareScaled numeral.digits numeral.exponent low (exponent - 2)
  let fromHigh := compareScaled numeral.digits numeral.exponent high (exponent - 2)
  (fromLow == .gt || (ends && fromLow == .eq)) && (fromHigh == .lt || (ends && fromHigh == .eq))

/-- The numeral of a grid of powers of ten that stands for a positive number, if there is one. -/
def onGrid? (mantissa : Nat) (exponent : Int) (grid : Int) : Option Numeral :=
  let numerator := mantissa * Nat.pow 2 exponent.toNat * Nat.pow 10 (-grid).toNat
  let denominator := Nat.pow 2 (-exponent).toNat * Nat.pow 10 grid.toNat
  let below := numerator / denominator
  let belowReads := readsBack mantissa exponent ⟨below, grid⟩
  let aboveReads := readsBack mantissa exponent ⟨below + 1, grid⟩
  if belowReads && aboveReads then
    some ⟨Binary64.roundQuotient numerator denominator, grid⟩
  else if belowReads then some ⟨below, grid⟩
  else if aboveReads then some ⟨below + 1, grid⟩
  else none

/-- The least power of ten that is greater than a positive number. -/
def scaleOf (mantissa : Nat) (exponent : Int) : Int :=
  let guess : Int := (((mantissa.log2 : Int) + exponent) * 30103) / 100000
  match [guess - 1, guess, guess + 1, guess + 2].find? fun scale =>
      compareScaled 1 scale mantissa exponent == .gt with
  | some scale => scale
  | none => guess + 3

/-- Moves trailing zeros of the digits into the exponent. -/
def Numeral.stripZeros (numeral : Numeral) : Numeral :=
  if divides : numeral.digits ≠ 0 ∧ numeral.digits % 10 = 0 then
    Numeral.stripZeros ⟨numeral.digits / 10, numeral.exponent + 1⟩
  else numeral
  termination_by numeral.digits
  decreasing_by exact Nat.div_lt_self (Nat.pos_of_ne_zero divides.1) (by decide)

/-- The shortest numeral of a positive number; seventeen digits are always enough. -/
def shortest (mantissa : Nat) (exponent : Int) : Numeral :=
  let scale := scaleOf mantissa exponent
  let found := (List.range 17).findSome? fun (length : Nat) =>
    onGrid? mantissa exponent (scale - length - 1)
  match found with
  | some numeral => numeral.stripZeros
  | none =>
    Numeral.stripZeros ⟨mantissa * Nat.pow 2 exponent.toNat * Nat.pow 5 (-exponent).toNat,
      min exponent 0⟩

end Decimal
end TapeMachine
