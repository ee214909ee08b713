import ViewModel.Number.Token
import ViewModel.Text.Blank
import ViewModel.Tree.Basic

/-!
# Validated fields

Constraints, structures given by hand and settings are read field by field. A field takes a value of its
own type, a value of another type that loses nothing, or a text that spells one; otherwise the cause of
its rejection is kept with the field's place.
-/

namespace ViewModel.Validation

inductive Cause
  | missing
  | textWanted
  | integerWanted
  | integerUnreadable
  | integerTooLong
  | fraction
  | notFinite
  | numberWanted
  | numberUnreadable
  | truthWanted
  | truthUnreadable
  | pathWanted
  | tableWanted
  | elementWanted
  | tagMissing
  | tagUnknown
  | choiceUnknown
  | tooSmall
  | frozen
  deriving DecidableEq, Repr

/-- A rejected value: the names on the way to it, and the cause. -/
structure Issue where
  path : List String
  cause : Cause
  deriving DecidableEq, Repr

/-! ## Integers in texts -/

/-- The integer in its plain form: a minus sign if there is one, then a zero alone or digits that do not
start with one. Too many digits are too many whatever follows them. -/
def plainInteger (chars : List Char) : Except Cause Int :=
  let (negative, unsigned) :=
    match chars with
    | '-' :: rest => (true, rest)
    | _ => (false, chars)
  let digits := unsigned.takeWhile Char.isDigit
  let zeroAhead := digits.head? == some '0' && digits.length != 1
  if zeroAhead || digits.isEmpty then .error .integerUnreadable
  else if Number.maxDigits < digits.length then .error .integerTooLong
  else if digits.length < unsigned.length then .error .integerUnreadable
  else
    let value := Number.digitsValue (Number.splitDigits digits).1
    .ok (if negative then -(value : Int) else value)

/-- What follows leading zeros and the low lines among them. The character before a point stays, and so
does the last one if nothing else is left. -/
def afterZeros (last : Char) : List Char → List Char
  | [] => [last]
  | c :: rest =>
    if c == '0' || c == '_' then afterZeros c rest
    else if c == '.' then last :: c :: rest
    else c :: rest

/-- Characters that start with a digit, without zeros at the front. -/
def withoutZeros? : List Char → Option (List Char)
  | [] => none
  | c :: rest => if c == '0' then some (afterZeros c rest) else if c.isDigit then some (c :: rest) else none

def withoutFraction (chars : List Char) : List Char :=
  match chars.dropWhile (· != '.') with
  | _ :: zero :: zeros => if (zero :: zeros).all (· == '0') then chars.takeWhile (· != '.') else chars
  | _ => chars

/-- No low line at either end, and no two of them side by side. -/
def isGrouped : List Char → Bool
  | [] => true
  | '_' :: _ => false
  | [_] => true
  | c :: '_' :: rest => c != '_' && !rest.isEmpty && isGrouped rest
  | _ :: rest => isGrouped rest

/-- The characters without the low lines that group them. -/
def ungroup? (chars : List Char) : Option (List Char) :=
  if isGrouped chars then some (chars.filter (· != '_')) else none

/-- The plain form of an integer that is written with white space around it, a plus sign, leading zeros, a
fraction of zeros or low lines. -/
def tidy? (chars : List Char) : Option (List Char) := do
  let shortened ← match Text.trimWith Text.isSpace chars with
    | '-' :: unsigned => (withoutZeros? unsigned).map ('-' :: ·)
    | '+' :: unsigned => withoutZeros? unsigned
    | unsigned => withoutZeros? unsigned
  ungroup? (withoutFraction shortened)

/-- The integer that a text spells, in its plain form or in one that can be tidied up. Only of a text in
plain form is it told that it has too many digits. -/
def integerOfText (text : String) : Except Cause Int :=
  match plainInteger text.toList with
  | .error .integerUnreadable =>
    match (tidy? text.toList).map plainInteger with
    | some (.ok n) => .ok n
    | _ => .error .integerUnreadable
  | read => read

/-! ## Numbers in texts -/

/-- The number that a decimal token of plain digits, or a word for an infinity or an undefined number,
stands for. -/
def plainNumber? (chars : List Char) : Option Float :=
  if chars.all (·.toNat < 128) then
    (Number.special? (chars.map Char.toLower)).orElse fun _ => Number.decimal? chars
  else none

/-- The number that a text spells: with white space around it, or else with low lines that group its
characters, but not with both. -/
def numberOfText (text : String) : Except Cause Float :=
  let chars := text.toList
  match (plainNumber? (Text.trimWith Text.isSpace chars)).orElse fun _ =>
      (ungroup? chars).bind plainNumber? with
  | some x => .ok x
  | none => .error .numberUnreadable

/-! ## Values -/

/-- The integer that a double is, within the reach of 64 bits. -/
def integerOfNumber (x : Float) : Except Cause Int :=
  let parts := Number.Binary.ofFloat x
  if parts.isFinite then
    match parts.toInt? with
    | some n => if -0x8000000000000000 < n && n < 0x8000000000000000 then .ok n else .error .integerTooLong
    | none => .error .fraction
  else .error .notFinite

def integer : Tree → Except Cause Int
  | .integer n => .ok n
  | .flag value => .ok (if value then 1 else 0)
  | .decimal x => integerOfNumber x
  | .text value => integerOfText value
  | _ => .error .integerWanted

def number : Tree → Except Cause Float
  | .decimal x => .ok x
  | .flag value => .ok (Number.nearestInt (if value then 1 else 0))
  | .integer n =>
    let x := Number.nearestInt n
    if (Number.Binary.ofFloat x).isFinite then .ok x else .error .numberWanted
  | .text value => numberOfText value
  | _ => .error .numberWanted

def text : Tree → Except Cause String
  | .text value => .ok value
  | _ => .error .textWanted

/-- The truth value that a word stands for, in any case of letters. -/
def truthOfText (text : String) : Except Cause Bool :=
  let word := String.ofList (text.toList.map Char.toLower)
  if ["1", "on", "t", "true", "y", "yes"].contains word then .ok true
  else if ["0", "off", "f", "false", "n", "no"].contains word then .ok false
  else .error .truthUnreadable

/-- The truth value that one or zero stands for; beyond 64 bits an integer is not even tried. -/
def truthOfInteger (n : Int) : Except Cause Bool :=
  if n = 1 then .ok true
  else if n = 0 then .ok false
  else if -0x8000000000000000 ≤ n && n < 0x8000000000000000 then .error .truthUnreadable
  else .error .truthWanted

def truth : Tree → Except Cause Bool
  | .flag value => .ok value
  | .text value => truthOfText value
  | .integer n => truthOfInteger n
  | .decimal x =>
    match integerOfNumber x with
    | .ok n => truthOfInteger n
    | .error _ => .error .truthWanted
  | _ => .error .truthWanted

/-! ## Fields -/

/-- The value as a value of its own type, where nothing stands for none. -/
def orNone (read : Tree → Except Cause α) : Tree → Except Cause (Option α)
  | .nothing => .ok none
  | tree => (read tree).map some

def fieldOr (fields : Tree) (path : List String) (name : String) (default : α)
    (read : Tree → Except Cause α) : Except Issue α :=
  match fields.field? name with
  | some value => (read value).mapError fun cause => ⟨path ++ [name], cause⟩
  | none => .ok default

def requiredField (fields : Tree) (path : List String) (name : String)
    (read : Tree → Except Cause α) : Except Issue α :=
  match fields.field? name with
  | some value => (read value).mapError fun cause => ⟨path ++ [name], cause⟩
  | none => .error ⟨path ++ [name], .missing⟩

/-- Two readings together: the results, or the issues of both. -/
def both (make : α → β → γ) (left : Except (List Issue) α) (right : Except (List Issue) β) :
    Except (List Issue) γ :=
  match left, right with
  | .ok a, .ok b => .ok (make a b)
  | .ok _, .error issues => .error issues
  | .error issues, .ok _ => .error issues
  | .error first, .error second => .error (first ++ second)

def next (argument : Except (List Issue) α) (make : Except (List Issue) (α → β)) :
    Except (List Issue) β :=
  both id make argument

def single (reading : Except Issue α) : Except (List Issue) α :=
  reading.mapError fun issue => [issue]

end ViewModel.Validation
