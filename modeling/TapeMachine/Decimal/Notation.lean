import TapeMachine.Decimal.Shortest

/-!
# Written floating-point numbers

A floating-point number is written positionally while its leading digit stands between the
fourth place after the point and the sixteenth place before it, and otherwise with a signed
exponent of at least two digits.  A positional number always shows a point.
-/

namespace TapeMachine
namespace Decimal

/-- An exponent with its sign and at least two digits. -/
def exponentText (exponent : Int) : String :=
  let magnitude := toString exponent.natAbs
  (if exponent < 0 then "e-" else "e+") ++ (if exponent.natAbs < 10 then "0" else "") ++ magnitude

/-- A numeral without a sign, laid out positionally or with an exponent. -/
def layOut (numeral : Numeral) : String :=
  let digits := Nat.toDigits 10 numeral.digits
  let leading : Int := numeral.exponent + digits.length - 1
  if -4 ≤ leading ∧ leading < 16 then
    if leading < 0 then
      "0." ++ String.ofList (List.replicate (-leading - 1).toNat '0' ++ digits)
    else
      let whole := digits.take (leading + 1).toNat
      let padding := List.replicate ((leading + 1).toNat - digits.length) '0'
      let fraction := digits.drop (leading + 1).toNat
      String.ofList (whole ++ padding) ++ "." ++
        (if fraction.isEmpty then "0" else String.ofList fraction)
  else
    match digits with
    | [] => exponentText leading
    | [digit] => String.singleton digit ++ exponentText leading
    | digit :: fraction =>
      String.singleton digit ++ "." ++ String.ofList fraction ++ exponentText leading

end Decimal

namespace Binary64

/-- A floating-point number in text. -/
def text : Binary64 → String
  | finite negative mantissa exponent =>
    (if negative then "-" else "") ++
      (if mantissa = 0 then "0.0" else Decimal.layOut (Decimal.shortest mantissa exponent))
  | infinite negative => if negative then "-inf" else "inf"
  | nan => "nan"

end Binary64
end TapeMachine
