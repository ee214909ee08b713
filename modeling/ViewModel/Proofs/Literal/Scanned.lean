import Mathlib.Algebra.Group.Nat.Even
import Mathlib.Data.List.Induction
import ViewModel.Literal.Basic

/-!
# Where a quoted text ends

Quoting puts a backslash before every quote and leaves the backslashes of the text alone. Whoever scans the
literal takes a backslash together with the character after it, so the backslashes before a quote pair up: the
one that was put there takes the quote only if the others are even in number.

* `scan?`, `scanLiteral?`: a scanner of double-quoted literals;
* `EvenRuns`: the backslashes before a quote, or at the end, are even in number;
* `ends_afterQuote_iff`: by induction on the text, two characters at a time where the first is a backslash;
* `quote_ends_iff`: which texts survive quoting.
-/

namespace ViewModel.Literal

/-- What a double-quoted literal holds behind its opening quote, and what follows its closing one: a backslash
takes the next character with it, and the first other quote closes. A line break is a character like any
other here, so on a text that has one this tells no more than which quote closes. -/
def scan? : List Char → Option (List Char × List Char)
  | [] => none
  | '"' :: rest => some ([], rest)
  | ['\\'] => none
  | '\\' :: taken :: rest => (scan? rest).map fun (held, after) => (taken :: held, after)
  | c :: rest => (scan? rest).map fun (held, after) => (c :: held, after)

/-- What a double-quoted literal holds, and what follows it. -/
def scanLiteral? : List Char → Option (List Char × List Char)
  | '"' :: rest => scan? rest
  | _ => none

/-- The rest of a literal is scanned to its last character, and not beyond a quote before. -/
def Ends (rest : List Char) : Prop := ∃ held, scan? rest = some (held, [])

/-- As many backslashes, with no further one before them, stand right before a quote or at the end. -/
structure IsRun (chars before : List Char) (length : Nat) (after : List Char) : Prop where
  split : chars = before ++ List.replicate length '\\' ++ after
  maximal : before.getLast? ≠ some '\\'
  guards : ∀ c ∈ after.head?, c = '"'

/-- Every maximal run of backslashes before a quote or at the end is of even length. -/
def EvenRuns (chars : List Char) : Prop :=
  ∀ before length after, IsRun chars before length after → Even length

section

variable {c : Char} {rest : List Char}

theorem scan?_cons (quote : c ≠ '"') (backslash : c ≠ '\\') :
    scan? (c :: rest) = (scan? rest).map fun (held, after) => (c :: held, after) := by
  rw [scan?]
  · exact quote
  · exact fun same _ => backslash same
  · exact fun _ _ same _ => backslash same

theorem ends_of_map (c : Char) :
    (∃ held, ((scan? rest).map fun (held, after) => (c :: held, after)) = some (held, [])) ↔ Ends rest := by
  cases read : scan? rest with
  | none => simp [Ends, read]
  | some found => simp [Ends, read, Prod.ext_iff]

theorem ends_cons (quote : c ≠ '"') (backslash : c ≠ '\\') : Ends (c :: rest) ↔ Ends rest := by
  rw [Ends, scan?_cons quote backslash]
  exact ends_of_map c

theorem ends_taken (taken : Char) : Ends ('\\' :: taken :: rest) ↔ Ends rest := ends_of_map taken

theorem ends_quote_iff : Ends ('"' :: rest) ↔ rest = [] := by
  simp [Ends, scan?]

theorem getLast?_ne_of_cons {before : List Char} (h : (c :: before).getLast? ≠ some '\\') :
    before.getLast? ≠ some '\\' := by
  intro last
  apply h
  rw [List.getLast?_cons, last]
  rfl

theorem getLast?_cons_ne {before : List Char} (h : before.getLast? ≠ some '\\') (first : before = [] → c ≠ '\\') :
    (c :: before).getLast? ≠ some '\\' := by
  cases before with
  | nil => simpa using first rfl
  | cons next before => rwa [List.getLast?_cons_cons]

/-- A run begins after a character that is no backslash. -/
theorem evenRuns_cons_iff (backslash : c ≠ '\\') : EvenRuns (c :: rest) ↔ EvenRuns rest := by
  constructor
  · intro even before length after run
    refine even (c :: before) length after ⟨?_, ?_, run.guards⟩
    · rw [run.split]
      rfl
    · exact getLast?_cons_ne run.maximal fun _ => backslash
  · intro even before length after run
    obtain ⟨split, maximal, guards⟩ := run
    cases before with
    | nil =>
      cases length with
      | zero => exact Even.zero
      | succ length => exact absurd (List.cons.inj split).1 backslash
    | cons first before =>
      have later := (List.cons.inj split).2
      exact even before length after ⟨later, getLast?_ne_of_cons maximal, guards⟩

/-- Two backslashes more or less leave a run as even as it was, and one before another character is none that
counts. -/
theorem evenRuns_taken_iff (quote : c ≠ '"') : EvenRuns ('\\' :: c :: rest) ↔ EvenRuns rest := by
  constructor
  · intro even before length after run
    obtain ⟨rfl, maximal, guards⟩ := run
    by_cases continued : before = [] ∧ c = '\\'
    · obtain ⟨rfl, rfl⟩ := continued
      have longer := even [] (length + 2) after ⟨rfl, maximal, guards⟩
      exact (Nat.even_add.1 longer).2 (by decide : Even 2)
    · refine even ('\\' :: c :: before) length after ⟨rfl, ?_, guards⟩
      refine getLast?_cons_ne (getLast?_cons_ne maximal ?_) nofun
      exact fun none same => continued ⟨none, same⟩
  · intro even before length after run
    obtain ⟨split, maximal, guards⟩ := run
    match before with
    | [] =>
      match length with
      | 0 => exact Even.zero
      | 1 =>
        have follows : c :: rest = after := (List.cons.inj split).2
        exact absurd (guards c (follows ▸ rfl)) quote
      | length + 2 =>
        have later := (List.cons.inj (List.cons.inj split).2).2
        exact (even [] length after ⟨later, nofun, guards⟩).add (by decide : Even 2)
    | [first] =>
      obtain rfl : '\\' = first := (List.cons.inj split).1
      exact absurd rfl maximal
    | first :: second :: before =>
      have later := (List.cons.inj (List.cons.inj split).2).2
      exact even before length after ⟨later, getLast?_ne_of_cons (getLast?_ne_of_cons maximal), guards⟩

theorem not_evenRuns_quote : ¬ EvenRuns ('\\' :: '"' :: rest) := by
  intro even
  exact absurd (even [] 1 ('"' :: rest) ⟨rfl, nofun, by simp⟩) Nat.not_even_one

theorem not_evenRuns_single : ¬ EvenRuns ['\\'] := by
  intro even
  exact absurd (even [] 1 [] ⟨rfl, nofun, nofun⟩) Nat.not_even_one

theorem evenRuns_nil : EvenRuns [] := by
  intro before length after run
  have empty := run.split
  simp only [List.nil_eq, List.append_eq_nil_iff, List.replicate_eq_nil_iff] at empty
  rw [empty.1.2]
  exact Even.zero

/-- What is scanned of a quoted text: the text as it is escaped, and the quote that closes it. -/
def afterQuote (chars : List Char) : List Char := chars.flatMap escapeChar ++ ['"']

theorem afterQuote_cons (quote : c ≠ '"') : afterQuote (c :: rest) = c :: afterQuote rest := by
  rw [afterQuote, List.flatMap_cons, escapeChar, if_neg quote]
  rfl

theorem ends_afterQuote_cons (backslash : c ≠ '\\') : Ends (afterQuote (c :: rest)) ↔ Ends (afterQuote rest) := by
  by_cases quote : c = '"'
  · subst quote
    exact ends_taken '"'
  · rw [afterQuote_cons quote]
    exact ends_cons quote backslash

theorem ends_afterQuote_taken (quote : c ≠ '"') : Ends (afterQuote ('\\' :: c :: rest)) ↔ Ends (afterQuote rest) := by
  rw [afterQuote_cons (by decide), afterQuote_cons quote]
  exact ends_taken c

/-- A backslash takes the one before a quote with it, so the quote closes. -/
theorem not_ends_afterQuote_quote : ¬ Ends (afterQuote ('\\' :: '"' :: rest)) := by
  have written : afterQuote ('\\' :: '"' :: rest) = '\\' :: '\\' :: '"' :: afterQuote rest := afterQuote_cons (by decide)
  rw [written, ends_taken, ends_quote_iff]
  exact List.append_ne_nil_of_right_ne_nil _ (by decide)

end

/-- A quoted text is scanned to its closing quote exactly if its runs of backslashes are even. -/
theorem ends_afterQuote_iff (chars : List Char) : Ends (afterQuote chars) ↔ EvenRuns chars := by
  -- A backslash is scanned together with the next character, so the induction goes by two.
  induction chars using List.twoStepInduction with
  | nil => exact iff_of_true (ends_quote_iff.2 rfl) evenRuns_nil
  | singleton c =>
    by_cases backslash : c = '\\'
    · subst backslash
      have ends : ¬ Ends (afterQuote ['\\']) := (ends_taken '"').not.2 (by simp [Ends, scan?])
      exact iff_of_false ends not_evenRuns_single
    · rw [ends_afterQuote_cons backslash, evenRuns_cons_iff backslash]
      exact iff_of_true (ends_quote_iff.2 rfl) evenRuns_nil
  | cons_cons c d rest pair next =>
    by_cases backslash : c = '\\'
    · subst backslash
      by_cases quote : d = '"'
      · subst quote
        exact iff_of_false not_ends_afterQuote_quote not_evenRuns_quote
      · rw [ends_afterQuote_taken quote, evenRuns_taken_iff quote]
        exact pair
    · rw [ends_afterQuote_cons backslash, evenRuns_cons_iff backslash]
      exact next d

/-- Without a backslash, the scanner holds the text when it comes to the closing quote. -/
theorem scan?_afterQuote {chars : List Char} (plain : '\\' ∉ chars) : scan? (afterQuote chars) = some (chars, []) := by
  induction chars with
  | nil => rfl
  | cons c rest ih =>
    rw [List.mem_cons, not_or] at plain
    by_cases quote : c = '"'
    · subst quote
      change (scan? (afterQuote rest)).map _ = _
      rw [ih plain.2]
      rfl
    · rw [afterQuote_cons quote, scan?_cons quote (Ne.symm plain.1), ih plain.2]
      rfl

theorem scanLiteral?_quote (text : String) : scanLiteral? (quote text).toList = scan? (afterQuote text.toList) := by
  rw [toList_quote, scanLiteral?, afterQuote]

/-- **Which texts survive quoting.** The literal of a text is scanned exactly to its last character if and only
if every maximal run of backslashes in the text that stands right before a quote or at the end is of even
length. If the text has no backslash, what the literal holds is the text itself. -/
theorem quote_ends_iff (text : String) :
    ((∃ held, scanLiteral? (quote text).toList = some (held, [])) ↔ EvenRuns text.toList) ∧
      ('\\' ∉ text.toList → scanLiteral? (quote text).toList = some (text.toList, [])) := by
  rw [scanLiteral?_quote]
  exact ⟨ends_afterQuote_iff text.toList, scan?_afterQuote⟩

/-- A folder whose path ends in one backslash does not survive, a share with pairs of them does, and a text
without any is held as it is. -/
theorem quote_ends_iff_paths :
    (¬ ∃ held, scanLiteral? (quote "C:\\").toList = some (held, [])) ∧
      (∃ held, scanLiteral? (quote "\\\\\"a\\b\\\\").toList = some (held, [])) ∧
      '\\' ∉ "say \"hi\"".toList ∧
      scanLiteral? (quote "say \"hi\"").toList = some ("say \"hi\"".toList, []) := by
  have single : ¬ EvenRuns "C:\\".toList := fun even =>
    absurd (even ['C', ':'] 1 [] ⟨rfl, by decide, nofun⟩) Nat.not_even_one
  have pairs : EvenRuns "\\\\\"a\\b\\\\".toList := by
    change EvenRuns ['\\', '\\', '"', 'a', '\\', 'b', '\\', '\\']
    rw [evenRuns_taken_iff (by decide), evenRuns_cons_iff (by decide), evenRuns_cons_iff (by decide),
      evenRuns_taken_iff (by decide), evenRuns_taken_iff (by decide)]
    exact evenRuns_nil
  have plain : '\\' ∉ "say \"hi\"".toList := by decide
  exact ⟨(quote_ends_iff _).1.not.2 single, (quote_ends_iff _).1.2 pairs, plain, (quote_ends_iff _).2 plain⟩

end ViewModel.Literal
