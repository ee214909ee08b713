/-!
# Binary floating-point numbers

A finite double is a signed significand times a power of two. This module takes a double apart, gives
the integer that an integral one stands for, and rounds a fraction to the nearest double.
-/

namespace ViewModel.Number

def twoTo (n : Nat) : Nat := Nat.pow 2 n

def tenTo (n : Nat) : Nat := Nat.pow 10 n

/-- What a double stands for: a number `± significand * 2 ^ exponent`, an infinity, or none. -/
inductive Binary
  | finite (negative : Bool) (significand : Nat) (exponent : Int)
  | infinite (negative : Bool)
  | undefined
  deriving DecidableEq, Repr

/-- The parts of the 64 bits: sign, 11 bits of exponent, 52 bits of significand. -/
def Binary.ofBits (bits : Nat) : Binary :=
  let negative := bits / twoTo 63 % 2 == 1
  let field : Nat := bits / twoTo 52 % twoTo 11
  let fraction : Nat := bits % twoTo 52
  if field = 2047 then
    if fraction = 0 then .infinite negative else .undefined
  else if field = 0 then .finite negative fraction (-1074)
  else .finite negative (twoTo 52 + fraction) ((field : Int) - 1075)

def Binary.ofFloat (x : Float) : Binary :=
  Binary.ofBits x.toBits.toNat

/-- The integer that a number without a fraction stands for; `none` for any other. -/
def Binary.toInt? : Binary → Option Int
  | .finite negative significand exponent =>
    let magnitude? : Option Nat :=
      if 0 ≤ exponent then some (significand * twoTo exponent.toNat)
      else
        let unit := twoTo (-exponent).toNat
        if significand % unit = 0 then some (significand / unit) else none
    magnitude?.map fun magnitude => if negative then -(magnitude : Int) else magnitude
  | _ => none

def Binary.isFinite : Binary → Bool
  | .finite .. => true
  | _ => false

/-- The integer nearest to `num / den`; a tie goes to the even one. -/
def roundQuotient (num den : Nat) : Nat :=
  let low := num / den
  let twice := 2 * (num % den)
  if twice < den then low
  else if den < twice then low + 1
  else if low % 2 = 0 then low else low + 1

/-- The bits of the double nearest to `num / den`, a tie going to the even significand; past the
greatest double they are those of infinity. -/
def nearestBits (num den : Nat) : Nat :=
  if num = 0 || den = 0 then 0
  else
    let estimate : Int := (num.log2 : Int) - den.log2
    let scaled (exponent : Int) : Nat × Nat :=
      if 0 ≤ exponent then (num, den * twoTo exponent.toNat) else (num * twoTo (-exponent).toNat, den)
    let (top, bottom) := scaled estimate
    let exponent := max (if top < bottom then estimate - 53 else estimate - 52) (-1074)
    let (top, bottom) := scaled exponent
    let significand := roundQuotient top bottom
    let bits :=
      if significand < twoTo 52 then significand
      else (exponent + 1075).toNat * twoTo 52 + (significand - twoTo 52)
    min bits (2047 * twoTo 52)

/-- The double nearest to `± num / den`. -/
def nearest (negative : Bool) (num den : Nat) : Float :=
  Float.ofBits (UInt64.ofNat (nearestBits num den + if negative then twoTo 63 else 0))

def nearestInt (n : Int) : Float :=
  nearest (n < 0) n.natAbs 1

end ViewModel.Number
