import ViewModel.Text.Utf8

/-!
# Bytes of a document

A document comes as the bytes of a text, and mostly its characters are those of the text. Where one of the
first two bytes is zero, though, the bytes are taken by two as units of UTF-16: no document starts with the
character zero, so the other byte is the first character, and the place of the zero tells which byte of a
unit is the high one.
-/

namespace ViewModel.Xml

/-- The characters of a document, and whether a byte is left over after them. -/
structure Decoded where
  chars : List Char
  leftOver : Bool := false
  deriving DecidableEq, Repr

def unitsOf (highFirst : Bool) : List UInt8 → List Nat
  | first :: second :: rest =>
    let unit := if highFirst then 256 * first.toNat + second.toNat else 256 * second.toNat + first.toNat
    unit :: unitsOf highFirst rest
  | _ => []

/-- The unit is the first of the two that stand for one character. -/
def isHighUnit (unit : Nat) : Bool := 0xd800 ≤ unit && unit < 0xdc00

/-- The characters that units stand for. One that stands for none is made the character zero, which no
document may hold. -/
def charsOfUnits : List Nat → List Char
  | high :: low :: rest =>
    if isHighUnit high then
      Char.ofNat (0x10000 + high % 0x400 * 0x400 + low % 0x400) :: charsOfUnits rest
    else Char.ofNat high :: charsOfUnits (low :: rest)
  | [unit] => [Char.ofNat unit]
  | [] => []

/-- The document that the bytes of a text make. -/
def Decoded.ofText (text : String) : Decoded :=
  let bytes := Text.Utf8.encode text
  let paired (highFirst : Bool) : Decoded :=
    ⟨charsOfUnits (unitsOf highFirst bytes), bytes.length % 2 == 1⟩
  match bytes with
  | 0 :: _ => paired true
  | _ :: 0 :: _ => paired false
  | _ => { chars := text.toList }

end ViewModel.Xml
