/-!
# Blank characters

The white space of a text: the separators of every script and the controls that space or end lines. A
field that is read strictly does not count the four controls that separate files, groups, records and
units among them.

* `trimWith_of_not_blank`: a text that neither begins nor ends blank is its own trimming.
-/

namespace ViewModel.Text

/-- White space of any script. -/
def isBlank (c : Char) : Bool :=
  let n := c.toNat
  (9 ≤ n && n ≤ 13) || (28 ≤ n && n ≤ 32) || n == 0x85 || n == 0xa0 || n == 0x1680 ||
    (0x2000 ≤ n && n ≤ 0x200a) || n == 0x2028 || n == 0x2029 || n == 0x202f || n == 0x205f ||
    n == 0x3000

/-- White space other than the four separating controls. -/
def isSpace (c : Char) : Bool :=
  isBlank c && !(28 ≤ c.toNat && c.toNat ≤ 31)

/-- The characters without the blanks at either end. -/
def trimWith (blank : Char → Bool) (chars : List Char) : List Char :=
  ((chars.dropWhile blank).reverse.dropWhile blank).reverse

/-- The text without white space at either end. -/
def trim (text : String) : String :=
  String.ofList (trimWith isBlank text.toList)

theorem dropWhile_of_not_blank {blank : Char → Bool} {chars : List Char}
    (first : ∀ c ∈ chars.head?, blank c = false) : chars.dropWhile blank = chars := by
  cases chars with
  | nil => rfl
  | cons c rest => simp [first c (by simp)]

theorem trimWith_of_not_blank {blank : Char → Bool} {chars : List Char}
    (first : ∀ c ∈ chars.head?, blank c = false) (last : ∀ c ∈ chars.getLast?, blank c = false) :
    trimWith blank chars = chars := by
  rw [trimWith, dropWhile_of_not_blank first, dropWhile_of_not_blank, List.reverse_reverse]
  simpa using last

end ViewModel.Text
