import ViewModel.Number.Binary
import ViewModel.Text.Digit

/-!
# Numeric tokens

The two forms of a number in a text: an integer token is an optional sign and decimal digits, a decimal
token may have a point and an exponent as well. Digits are of any script.

* `splitDigits_digits`: a row of digits is read to its end, digit by digit.
-/

namespace ViewModel.Number

/-- The base-ten value of a row of digits, the first one the highest. -/
def digitsValue (digits : List Nat) : Nat :=
  digits.foldl (fun value digit => 10 * value + digit) 0

def splitSign : List Char → Bool × List Char
  | '-' :: rest => (true, rest)
  | '+' :: rest => (false, rest)
  | chars => (false, chars)

/-- The digits at the front, and what follows them. -/
def splitDigits : List Char → List Nat × List Char
  | [] => ([], [])
  | c :: rest =>
    match Text.digitValue? c with
    | some digit => let (digits, tail) := splitDigits rest; (digit :: digits, tail)
    | none => ([], c :: rest)

/-- The most digits that an integer token may have. -/
def maxDigits : Nat := 4300

def integer? (chars : List Char) : Option Int :=
  let (negative, unsigned) := splitSign chars
  match splitDigits unsigned with
  | (digits, []) =>
    if digits.isEmpty || maxDigits < digits.length then none
    else some (if negative then -(digitsValue digits : Int) else digitsValue digits)
  | _ => none

/-- A decimal token taken apart: its sign, its digits as one number, and the power of ten they count. -/
structure Parts where
  negative : Bool
  digits : List Nat
  exponent : Int

/-- An exponent mark with an optional sign and digits, or nothing. -/
def exponentPart? : List Char → Option Int
  | [] => some 0
  | c :: rest =>
    if c = 'e' || c = 'E' then
      let (negative, unsigned) := splitSign rest
      match splitDigits unsigned with
      | (digits, []) =>
        if digits.isEmpty then none
        else some (if negative then -(digitsValue digits : Int) else digitsValue digits)
      | _ => none
    else none

/-- The parts of a decimal token: digits on at least one side of an optional point, then an optional
exponent. -/
def parts? (chars : List Char) : Option Parts :=
  let (negative, unsigned) := splitSign chars
  let (whole, rest) := splitDigits unsigned
  let (fraction, rest) :=
    match rest with
    | '.' :: rest => splitDigits rest
    | _ => ([], rest)
  if whole.isEmpty && fraction.isEmpty then none
  else (exponentPart? rest).map fun exponent =>
    ⟨negative, whole ++ fraction, exponent - fraction.length⟩

/-- The double nearest to the token's value. Beyond the reach of doubles on either side the power of ten
is not worked out. -/
def Parts.toFloat (parts : Parts) : Float :=
  let significant := parts.digits.dropWhile (· == 0)
  let place : Int := significant.length + parts.exponent
  if significant.isEmpty || place < -400 then nearest parts.negative 0 1
  else if 400 < place then nearest parts.negative (twoTo 1024) 1
  else
    let value := digitsValue significant
    if 0 ≤ parts.exponent then nearest parts.negative (value * tenTo parts.exponent.toNat) 1
    else nearest parts.negative value (tenTo (-parts.exponent).toNat)

def decimal? (chars : List Char) : Option Float :=
  (parts? chars).map Parts.toFloat

/-- The words for an infinity or an undefined number, in small letters. -/
def special? (chars : List Char) : Option Float :=
  let (negative, word) := splitSign chars
  match String.ofList word with
  | "inf" | "infinity" => some (nearest negative (twoTo 1024) 1)
  | "nan" => some (Float.ofBits (0x7ff8000000000000 + if negative then 0x8000000000000000 else 0))
  | _ => none

theorem splitDigits_digits {chars : List Char} {digits : List Nat}
    (h : chars.map Text.digitValue? = digits.map some) : splitDigits chars = (digits, []) := by
  induction chars generalizing digits with
  | nil => cases digits with
    | nil => rfl
    | cons => simp at h
  | cons c rest ih => cases digits with
    | nil => simp at h
    | cons digit digits =>
      simp only [List.map_cons, List.cons.injEq] at h
      simp [splitDigits, h.1, ih h.2]

end ViewModel.Number
