import ViewModel.Number.Shortest

/-!
# Doubles as text

A double is written with its fewest digits, a point always among them: positionally while its first digit
stands between the fourth place after the point and the sixteenth before it, and otherwise with one digit
before the point and an exponent of at least two digits.
-/

namespace ViewModel.Number

/-- The digits of a natural number, without the zeros at their end, and how many those were. -/
def strippedDigits (n : Nat) : List Char × Nat :=
  let kept := (Nat.toDigits 10 n).reverse.dropWhile (· == '0') |>.reverse
  (kept, digitCount n - kept.length)

/-- An exponent with its sign and at least two digits. -/
def exponentText (exponent : Int) : String :=
  let digits := toString exponent.natAbs
  (if exponent < 0 then "-" else "+") ++ (if digits.length < 2 then "0" ++ digits else digits)

/-- A positive decimal: positional notation for the places `-4` to `15` of its first digit. -/
def Decimal.written (d : Decimal) : String :=
  let (digits, zeros) := strippedDigits d.digits
  let count := digits.length
  let place : Int := count + zeros + d.exponent - 1
  if -4 ≤ place && place < 16 then
    if place < 0 then "0." ++ String.ofList (List.replicate (-place - 1).toNat '0' ++ digits)
    else
      let whole := place.toNat + 1
      let padded := digits ++ List.replicate (whole - count) '0'
      let fraction := padded.drop whole
      String.ofList (padded.take whole) ++ "." ++
        String.ofList (if fraction.isEmpty then ['0'] else fraction)
  else
    let fraction := digits.drop 1
    String.ofList (digits.take 1) ++ (if fraction.isEmpty then "" else "." ++ String.ofList fraction) ++
      "e" ++ exponentText place

/-- A double as a value is written in a message. -/
def Binary.written : Binary → String
  | .undefined => "nan"
  | .infinite negative => if negative then "-inf" else "inf"
  | .finite negative significand exponent =>
    (if negative then "-" else "") ++
      (if significand = 0 then "0.0" else (shortest significand exponent).written)

end ViewModel.Number
