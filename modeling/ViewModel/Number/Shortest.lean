import ViewModel.Number.Binary

/-!
# Fewest digits

The decimal written for a double is the one with the fewest digits among those that read back as that
double, and of these the nearest to it. For one digit, two digits, and so on, only the two decimals on
either side of the double can be the nearest, so those two are tried.
-/

namespace ViewModel.Number

/-- A decimal `digits * 10 ^ exponent`. -/
structure Decimal where
  digits : Nat
  exponent : Int
  deriving DecidableEq, Repr

def digitCount (n : Nat) : Nat :=
  (Nat.toDigits 10 n).length

/-- The least `p` with `num / den < 10 ^ p`, for a positive fraction. -/
def magnitude (num den : Nat) : Int :=
  if den ≤ num then digitCount (num / den)
  else 1 - (digitCount ((den + num - 1) / num - 1) : Int)

/-- Compares `digits * 10 ^ exponent` with `num / den`. -/
def compareDecimal (d : Decimal) (num den : Nat) : Ordering :=
  if 0 ≤ d.exponent then compare (d.digits * tenTo d.exponent.toNat * den) num
  else compare (d.digits * den) (num * tenTo (-d.exponent).toNat)

/-- The decimals that read back as one double: those between `low / den` and `high / den`, with both ends
where `closed`. -/
structure Interval where
  low : Nat
  high : Nat
  den : Nat
  closed : Bool

def Interval.holds (interval : Interval) (d : Decimal) : Bool :=
  let above := compareDecimal d interval.low interval.den
  let below := compareDecimal d interval.high interval.den
  (above == .gt || (interval.closed && above == .eq)) &&
    (below == .lt || (interval.closed && below == .eq))

/-- The neighbours of `num / den` among the multiples of `10 ^ exponent`, the lower one first. -/
def neighbours (num den : Nat) (exponent : Int) : Decimal × Decimal :=
  let low :=
    if 0 ≤ exponent then num / (den * tenTo exponent.toNat)
    else num * tenTo (-exponent).toNat / den
  (⟨low, exponent⟩, ⟨low + 1, exponent⟩)

/-- Of two neighbours that both read back, the nearer one; a tie goes to even digits. -/
def nearer (low high : Decimal) (num den : Nat) : Decimal :=
  let middle : Decimal := ⟨(low.digits + high.digits) * 5, low.exponent - 1⟩
  match compareDecimal middle num den with
  | .gt => low
  | .lt => high
  | .eq => if low.digits % 2 = 0 then low else high

/-- The first grid, from `count` digits on, with a decimal in the interval. -/
def shortestFrom (interval : Interval) (num : Nat) (top : Int) : (fuel count : Nat) → Decimal
  | 0, count => (neighbours num interval.den (top - count)).1
  | fuel + 1, count =>
    let (low, high) := neighbours num interval.den (top - count)
    match interval.holds low, interval.holds high with
    | true, true => nearer low high num interval.den
    | true, false => low
    | false, true => high
    | false, false => shortestFrom interval num top fuel (count + 1)

/-- The decimal of fewest digits that reads back as the double `significand * 2 ^ exponent`; seventeen
digits always suffice. -/
def shortest (significand : Nat) (exponent : Int) : Decimal :=
  if significand = 0 then ⟨0, 0⟩
  else
    let (unit, den) : Nat × Nat :=
      if 2 ≤ exponent then (twoTo (exponent - 2).toNat, 1) else (1, twoTo (2 - exponent).toNat)
    let narrow := significand = twoTo 52 && -1074 < exponent
    let interval : Interval :=
      { low := (4 * significand - if narrow then 1 else 2) * unit
        high := (4 * significand + 2) * unit
        den, closed := significand % 2 = 0 }
    let num := 4 * significand * unit
    shortestFrom interval num (magnitude num den) 17 1

end ViewModel.Number
