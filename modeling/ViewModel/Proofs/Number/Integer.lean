import Mathlib.Data.List.Induction
import Mathlib.Data.Nat.Digits.Defs
import ViewModel.Number.Token
import ViewModel.Text.Blank

/-!
# Integer tokens and numerals

An integer token is an optional sign and one to 4300 decimal digits of any script, and stands for their base-ten
value. A numeral is the token that an integer is written as. It has no more digits than any other token of the
integer, as the leading zeros are gone; so what was read can be read again once it is written.

* `integer?_eq_some_iff`: the tokens that are read, and what as;
* `toList_toString`, `toString_inj`: the characters of a numeral, which tell the integer;
* `isCanonical_toString`: a numeral has no plus sign and no leading zero;
* `isInteger_toString`: the numeral of an integer that was read is a token of it.
-/

namespace ViewModel.Number

/-- The base-ten value of a row of digits. -/
def baseTen (digits : List Nat) : Nat := Nat.ofDigits 10 digits.reverse

/-- The characters are an optional sign and decimal digits of any script, and the integer is what they stand for. -/
def IsInteger (chars : List Char) (n : Int) : Prop :=
  ∃ (sign digits : List Char) (values : List Nat), chars = sign ++ digits ∧
    digits.map Text.digitValue? = values.map some ∧ 1 ≤ values.length ∧ values.length ≤ 4300 ∧
    ((sign = [] ∨ sign = ['+']) ∧ n = baseTen values ∨ sign = ['-'] ∧ n = -(baseTen values : Int))

/-- The characters are the digits `0` to `9` of the integer's magnitude, the first of which is no zero unless it
stands alone, and before them a minus sign if the integer is negative. -/
def IsCanonical (chars : List Char) (n : Int) : Prop :=
  ∃ digits : List Char, chars = (if n < 0 then ['-'] else []) ++ digits ∧ digits ≠ [] ∧
    (∀ c ∈ digits, c.isDigit = true) ∧ baseTen (digits.map fun c => c.toNat - '0'.toNat) = n.natAbs ∧
    (digits.head? = some '0' → digits = ['0'])

/-- Digits are taken from the first one on, each with ten times the value of those before it. -/
theorem digitsValue_eq_baseTen (digits : List Nat) : digitsValue digits = baseTen digits := by
  induction digits using List.reverseRecOn with
  | nil => rfl
  | append_singleton digits digit ih =>
    rw [baseTen, List.reverse_concat, Nat.ofDigits_cons, ← baseTen, ← ih]
    simp only [digitsValue, List.foldl_append, List.foldl_cons, List.foldl_nil]
    omega

section

variable {chars : List Char} {values : List Nat}

theorem digitValue?_ne_none (digital : chars.map Text.digitValue? = values.map some) {c : Char} (mem : c ∈ chars) :
    Text.digitValue? c ≠ none := by
  have held : Text.digitValue? c ∈ values.map some := digital ▸ List.mem_map_of_mem mem
  obtain ⟨value, -, same⟩ := List.mem_map.1 held
  simp [← same]

theorem baseTen_lt (digital : chars.map Text.digitValue? = values.map some) :
    baseTen values < 10 ^ values.length := by
  have small : ∀ value ∈ values.reverse, value < 10 := by
    intro value mem
    have held : some value ∈ chars.map Text.digitValue? := digital ▸ List.mem_map_of_mem (List.mem_reverse.1 mem)
    obtain ⟨c, -, same⟩ := List.mem_map.1 held
    exact Text.digitValue?_lt_ten same
  have bound := Nat.ofDigits_lt_base_pow_length (by decide) small
  rwa [List.length_reverse] at bound

theorem map_of_splitDigits (h : splitDigits chars = (values, [])) :
    chars.map Text.digitValue? = values.map some := by
  induction chars generalizing values with
  | nil =>
    cases h
    rfl
  | cons c rest ih =>
    rw [splitDigits] at h
    cases digit : Text.digitValue? c with
    | none => simp [digit] at h
    | some value =>
      simp only [digit, Prod.mk.injEq] at h
      obtain ⟨rfl, ended⟩ := h
      rw [List.map_cons, digit, ih (Prod.ext rfl ended), List.map_cons]

/-- Digits begin with no sign. -/
theorem splitSign_of_digits (digital : chars.map Text.digitValue? = values.map some) :
    splitSign chars = (false, chars) := by
  unfold splitSign
  split
  · exact absurd (by decide) (digitValue?_ne_none digital List.mem_cons_self)
  · exact absurd (by decide) (digitValue?_ne_none digital List.mem_cons_self)
  · rfl

end

theorem splitSign_eq {chars rest : List Char} {negative : Bool} (h : splitSign chars = (negative, rest)) :
    ∃ sign, chars = sign ++ rest ∧
      (negative = false ∧ (sign = [] ∨ sign = ['+']) ∨ negative = true ∧ sign = ['-']) := by
  unfold splitSign at h
  split at h <;> cases h
  · exact ⟨['-'], rfl, .inr ⟨rfl, rfl⟩⟩
  · exact ⟨['+'], rfl, .inl ⟨rfl, .inr rfl⟩⟩
  · exact ⟨[], rfl, .inl ⟨rfl, .inl rfl⟩⟩

/-- Exactly the integer tokens are read, each as what it stands for. -/
theorem integer?_eq_some_iff {chars : List Char} {n : Int} : integer? chars = some n ↔ IsInteger chars n := by
  constructor
  · intro h
    unfold integer? at h
    cases signed : splitSign chars with
    | mk negative unsigned =>
      cases split : splitDigits unsigned with
      | mk values rest =>
        rw [signed] at h
        dsimp only at h
        rw [split] at h
        cases rest with
        | cons => cases h
        | nil =>
          obtain ⟨sign, rfl, signs⟩ := splitSign_eq signed
          dsimp only at h
          split at h
          · cases h
          · rename_i few
            simp only [Bool.or_eq_true, decide_eq_true_eq, not_or, not_lt, List.isEmpty_iff] at few
            refine ⟨sign, unsigned, values, rfl, map_of_splitDigits split, List.length_pos_iff.2 few.1, few.2, ?_⟩
            rw [← digitsValue_eq_baseTen]
            rcases signs with ⟨rfl, sign⟩ | ⟨rfl, sign⟩
            · exact .inl ⟨sign, (Option.some.inj h).symm⟩
            · exact .inr ⟨sign, (Option.some.inj h).symm⟩
  · rintro ⟨sign, digits, values, rfl, digital, one, few, signs⟩
    have split := splitDigits_digits digital
    have full : (values.isEmpty || decide (maxDigits < values.length)) = false := by
      simp [maxDigits, List.length_pos_iff.1 one, Nat.not_lt.2 few]
    have unsigned := splitSign_of_digits digital
    rw [← digitsValue_eq_baseTen] at signs
    rcases signs with ⟨rfl | rfl, rfl⟩ | ⟨rfl, rfl⟩
    · rw [List.nil_append, integer?, unsigned]
      dsimp only
      rw [split]
      simp [full]
    · change integer? ('+' :: digits) = _
      simp [integer?, splitSign, split, full]
    · change integer? ('-' :: digits) = _
      simp [integer?, splitSign, split, full]

/-- Between the digits of the scripts there are the letters and every blank. -/
theorem toNat_of_digitValue? {c : Char} (h : Text.digitValue? c ≠ none) :
    48 ≤ c.toNat ∧ c.toNat < 58 ∨ 0x660 ≤ c.toNat ∧ c.toNat < 0x1680 ∨
      0x1680 < c.toNat ∧ c.toNat < 0x2000 ∨ 0x3000 < c.toNat := by
  have runs : ∀ first ∈ Text.digitZeros, first = 48 ∨ 0x660 ≤ first ∧ first + 10 ≤ 0x1680 ∨
      0x1680 < first ∧ first + 10 ≤ 0x2000 ∨ 0x3000 < first := by decide
  obtain ⟨value, digit⟩ := Option.ne_none_iff_exists'.1 h
  obtain ⟨first, found, -⟩ := Option.map_eq_some_iff.1 digit
  have run := runs first (List.mem_of_find?_eq_some found)
  have inside := List.find?_some found
  simp only [Bool.and_eq_true, decide_eq_true_eq] at inside
  omega

namespace IsInteger

variable {chars : List Char} {n : Int} (h : IsInteger chars n)
include h

/-- What stands in an integer token: digits and a sign. -/
theorem toNat_of_mem {c : Char} (mem : c ∈ chars) :
    43 ≤ c.toNat ∧ c.toNat < 58 ∨ 0x660 ≤ c.toNat ∧ c.toNat < 0x1680 ∨
      0x1680 < c.toNat ∧ c.toNat < 0x2000 ∨ 0x3000 < c.toNat := by
  obtain ⟨sign, digits, values, rfl, digital, -, -, signs⟩ := h
  rcases List.mem_append.1 mem with mem | mem
  · left
    rcases signs with ⟨rfl | rfl, -⟩ | ⟨rfl, -⟩
    · cases mem
    · cases List.mem_singleton.1 mem
      decide
    · cases List.mem_singleton.1 mem
      decide
  · have range := toNat_of_digitValue? (digitValue?_ne_none digital mem)
    omega

theorem not_mem {c : Char} (outside : 58 ≤ c.toNat ∧ c.toNat < 0x660) : c ∉ chars := by
  intro mem
  have range := h.toNat_of_mem mem
  omega

theorem map_toLower : chars.map Char.toLower = chars := by
  have small {c : Char} (mem : c ∈ chars) : c.toLower = c := by
    have range := h.toNat_of_mem mem
    refine dif_neg fun upper => ?_
    have low : 65 ≤ c.toNat := upper.1
    have high : c.toNat ≤ 90 := upper.2
    omega
  exact (List.map_congr_left fun c mem => small mem).trans (List.map_id chars)

theorem trimWith_isBlank : Text.trimWith Text.isBlank chars = chars := by
  have full {c : Char} (mem : c ∈ chars) : Text.isBlank c = false := by
    have range := h.toNat_of_mem mem
    simp only [Text.isBlank, Bool.or_eq_false_iff, Bool.and_eq_false_iff, decide_eq_false_iff_not, beq_eq_false_iff_ne]
    omega
  exact Text.trimWith_of_not_blank (fun c first => full (List.mem_of_mem_head? first))
    fun c last => full (List.mem_of_getLast? last)

end IsInteger

theorem digitValue?_of_isDigit {c : Char} (h : c.isDigit = true) :
    Text.digitValue? c = some (c.toNat - '0'.toNat) := by
  have range : 48 ≤ c.toNat ∧ c.toNat < 58 := by
    simp only [Char.isDigit, Bool.and_eq_true, decide_eq_true_eq, UInt32.le_iff_toNat_le] at h
    have low : 48 ≤ c.toNat := h.1
    have high : c.toNat ≤ 57 := h.2
    omega
  simp [Text.digitValue?, Text.digitZeros, range]

section

variable {n m : Nat} {c : Char}

theorem isDigit_of_mem_toDigits (mem : c ∈ Nat.toDigits 10 n) : c.isDigit = true :=
  Nat.isDigit_of_mem_toDigits (by decide) (by decide) mem

theorem toDigits_inj (h : Nat.toDigits 10 n = Nat.toDigits 10 m) : n = m := by
  rw [← Nat.ofDigitChars_ten_toDigits (n := n), ← Nat.ofDigitChars_ten_toDigits (n := m), h]

/-- The first digit of a numeral is no zero unless it is the only one. -/
theorem toDigits_of_zero (zero : (Nat.toDigits 10 n).head? = some '0') : Nat.toDigits 10 n = ['0'] := by
  induction n using Nat.base_induction 10 (by decide) with
  | single m small =>
    rw [Nat.toDigits_of_lt_base small] at zero ⊢
    simpa using zero
  | digit m k small pos ih =>
    have first : (Nat.toDigits 10 m).head? = some '0' := by
      rw [← Nat.toDigits_append_toDigits (by decide) pos small, List.head?_append] at zero
      cases held : Nat.toDigits 10 m with
      | nil => exact absurd held Nat.toDigits_ne_nil
      | cons c rest => simpa [held] using zero
    exact absurd (toDigits_inj (ih first)) pos.ne'

end

section

variable {n m : Int} {c : Char}

/-- The characters of a numeral are a minus sign, if the integer is negative, and the digits of its magnitude. -/
theorem toList_toString (n : Int) :
    (toString n).toList = (if n < 0 then ['-'] else []) ++ Nat.toDigits 10 n.natAbs := by
  rw [Int.toString_eq_repr, Int.repr_eq_if]
  split
  · rename_i nonneg
    have magnitude : n.toNat = n.natAbs := by omega
    rw [if_neg (Int.not_lt.2 nonneg), List.nil_append, Nat.toList_repr, magnitude]
  · rename_i negative
    have magnitude : (-n).toNat = n.natAbs := by omega
    rw [if_pos (Int.not_le.1 negative), String.toList_append, Nat.toList_repr, magnitude]
    rfl

theorem mem_toString (mem : c ∈ (toString n).toList) : c = '-' ∨ c.isDigit = true := by
  rw [toList_toString] at mem
  rcases List.mem_append.1 mem with sign | digit
  · split at sign
    · exact .inl (List.mem_singleton.1 sign)
    · cases sign
  · exact .inr (isDigit_of_mem_toDigits digit)

theorem toString_inj (h : toString n = toString m) : n = m := by
  have unsigned (a b : Nat) : Nat.toDigits 10 a ≠ '-' :: Nat.toDigits 10 b := by
    intro same
    have digit : '-'.isDigit = true := isDigit_of_mem_toDigits (same ▸ List.mem_cons_self)
    cases digit
  have chars := congrArg String.toList h
  rw [toList_toString, toList_toString] at chars
  split at chars <;> split at chars
  · have magnitude := toDigits_inj (List.append_cancel_left chars)
    omega
  · exact absurd chars.symm (unsigned _ _)
  · exact absurd chars (unsigned _ _)
  · have magnitude := toDigits_inj chars
    omega

end

theorem baseTen_toDigits (n : Nat) : baseTen ((Nat.toDigits 10 n).map fun c => c.toNat - '0'.toNat) = n := by
  rw [← digitsValue_eq_baseTen, digitsValue, List.foldl_map]
  exact Nat.ofDigitChars_ten_toDigits

theorem isCanonical_toString (n : Int) : IsCanonical (toString n).toList n :=
  ⟨Nat.toDigits 10 n.natAbs, toList_toString n, Nat.toDigits_ne_nil, fun _ => isDigit_of_mem_toDigits,
    baseTen_toDigits n.natAbs, toDigits_of_zero⟩

/-- The magnitude of an integer is below a power of ten of as many places as a token of it has digits. -/
theorem IsInteger.natAbs_lt {chars : List Char} {n : Int} (h : IsInteger chars n) :
    ∃ places, 1 ≤ places ∧ places ≤ 4300 ∧ n.natAbs < 10 ^ places := by
  obtain ⟨sign, digits, values, rfl, digital, one, few, signs⟩ := h
  have magnitude : n.natAbs = baseTen values := by
    rcases signs with ⟨-, rfl⟩ | ⟨-, rfl⟩ <;> simp
  exact ⟨values.length, one, few, magnitude ▸ baseTen_lt digital⟩

/-- An integer that was read is read again from its numeral. -/
theorem isInteger_toString {chars : List Char} {n : Int} (h : IsInteger chars n) :
    IsInteger (toString n).toList n := by
  obtain ⟨places, one, few, small⟩ := h.natAbs_lt
  let digits := Nat.toDigits 10 n.natAbs
  let values := digits.map fun c => c.toNat - '0'.toNat
  have digital : digits.map Text.digitValue? = values.map some := by
    rw [List.map_map]
    exact List.map_congr_left fun c mem => digitValue?_of_isDigit (isDigit_of_mem_toDigits mem)
  have length : values.length = digits.length := List.length_map _
  have short : digits.length ≤ places := (Nat.length_toDigits_le_iff (by decide) one).2 small
  have long : 1 ≤ digits.length := Nat.length_toDigits_pos
  refine ⟨_, digits, values, toList_toString n, digital, by omega, by omega, ?_⟩
  rw [baseTen_toDigits n.natAbs]
  split
  · rename_i negative
    exact .inr ⟨rfl, by omega⟩
  · rename_i nonneg
    exact .inl ⟨.inl rfl, by omega⟩

end ViewModel.Number
