import ViewModel.Proofs.Lines
import ViewModel.Proofs.Literal.Datum
import ViewModel.Proofs.Number.Integer

/-!
# Layouts and where they end

A layout is followed by a comma wherever it stands. Of two data of the same form, the layouts with their
commas tell both the data and where the layouts end, if no text in them holds a backslash: a quoted text
ends at its first quote without a backslash in front, anything that is not quoted holds no comma, and the
line that closes a list is none of an item.

* `quote_inj`, `memberRef_inj`, `integer_inj`: the parts of a layout;
* `Alike`: data of the same form;
* `layout_inj`: the layouts of data of the same form.
-/

namespace ViewModel.Literal

section

variable {c : Char} {before before' after after' rest rest' : List Char}

/-- Escaped characters without a backslash among them are told apart from what follows the quote. -/
theorem escaped_inj (plain : '\\' ∉ before) (plain' : '\\' ∉ before')
    (h : before.flatMap escapeChar ++ '"' :: rest = before'.flatMap escapeChar ++ '"' :: rest') :
    before = before' ∧ rest = rest' := by
  induction before generalizing before' with
  | nil =>
    cases before' with
    | nil => exact ⟨rfl, List.tail_eq_of_cons_eq h⟩
    | cons first others =>
      by_cases quoted : first = '"'
      · simp [escapeChar, quoted] at h
      · simp [escapeChar, quoted, Ne.symm quoted] at h
  | cons first others ih =>
    have apart : '\\' ∉ others := fun mem => plain (List.mem_cons_of_mem _ mem)
    cases before' with
    | nil =>
      by_cases quoted : first = '"'
      · simp [escapeChar, quoted] at h
      · simp [escapeChar, quoted] at h
    | cons first' others' =>
      have apart' : '\\' ∉ others' := fun mem => plain' (List.mem_cons_of_mem _ mem)
      have opens : first ≠ '\\' := fun same => plain (same ▸ List.mem_cons_self)
      have opens' : first' ≠ '\\' := fun same => plain' (same ▸ List.mem_cons_self)
      have same : first = first' ∧
          others.flatMap escapeChar ++ '"' :: rest = others'.flatMap escapeChar ++ '"' :: rest' := by
        by_cases quoted : first = '"' <;> by_cases quoted' : first' = '"' <;>
          simp_all [escapeChar, eq_comm]
      obtain ⟨rfl, later⟩ := same
      obtain ⟨rfl, ended⟩ := ih apart apart' later
      exact ⟨rfl, ended⟩

/-- A quoted text without a backslash tells its text and where it ends. -/
theorem quote_inj {text text' : String} (plain : '\\' ∉ text.toList) (plain' : '\\' ∉ text'.toList)
    (h : (quote text).toList ++ rest = (quote text').toList ++ rest') : text = text' ∧ rest = rest' := by
  simp only [quote, escape, String.toList_append, String.toList_ofList, List.append_assoc] at h
  obtain ⟨same, ended⟩ := escaped_inj plain plain' (List.append_cancel_left h)
  exact ⟨String.toList_injective same, ended⟩

/-- The characters of an identifier are no punctuation. -/
theorem not_mem_of_isIdentifier {text : String} (h : Text.isIdentifier text = true)
    (ascii : c.toNat < 128) (mark : c.isAlphanum = false) (line : c ≠ '_') : c ∉ text.toList := by
  have part (d : Char) (isPart : Text.isIdentifierPart d = true) : d ≠ c := by
    rintro rfl
    have high : ¬ 128 ≤ d.toNat := by omega
    simp [Char.isAlphanum] at mark
    simp [Text.isIdentifierPart, Text.isIdentifierStart, mark, line, high] at isPart
  intro mem
  unfold Text.isIdentifier at h
  split at h
  · cases h
  · rename_i first others held
    obtain ⟨start, parts⟩ := Bool.and_eq_true_iff.1 h
    rw [held] at mem
    rcases List.mem_cons.1 mem with rfl | mem
    · exact part c (by simp [Text.isIdentifierPart, start]) rfl
    · exact part c (List.all_eq_true.1 parts c mem) rfl

/-- A reference to a member of a known enum tells the member and where it ends. -/
theorem memberRef_inj {enum member member' : String} (plain : '\\' ∉ member.toList)
    (plain' : '\\' ∉ member'.toList)
    (h : (memberRef enum member).toList ++ ',' :: rest = (memberRef enum member').toList ++ ',' :: rest') :
    member = member' ∧ rest = rest' := by
  unfold memberRef at h
  by_cases known : Text.isIdentifier member = true <;> by_cases known' : Text.isIdentifier member' = true
  · simp only [known, known', if_true, String.toList_append, List.append_assoc] at h
    have absent := not_mem_of_isIdentifier (c := ',') known (by decide) (by decide) (by decide)
    have absent' := not_mem_of_isIdentifier (c := ',') known' (by decide) (by decide) (by decide)
    obtain ⟨same, ended⟩ := cut_of_append_eq absent absent'
      (List.append_cancel_left (List.append_cancel_left h))
    exact ⟨String.toList_injective same, ended⟩
  · simp [known, known'] at h
  · simp [known, known'] at h
  · simp only [known, known', Bool.false_eq_true, if_false, String.toList_append, List.append_assoc] at h
    obtain ⟨same, ended⟩ := quote_inj plain plain' (List.append_cancel_left (List.append_cancel_left h))
    exact ⟨same, (List.cons.inj (List.cons.inj ended).2).2⟩

/-- A command's text around its quoted message. -/
theorem commandText_eq (step message indent : String) :
    Encoder.commandText step message indent =
      "(" ++ ("parameter?: unknown) => \x7b\n" ++ (indent ++ (step ++ ("console.log(" ++ (quote message ++
        (", parameter ? parameter : \"\");\n" ++ (indent ++ "\x7d"))))))) := by
  have opening : "(parameter?: unknown) => \x7b\n" = "(" ++ "parameter?: unknown) => \x7b\n" := by
    decide +kernel
  have before : "console.log(\"" = "console.log(" ++ "\"" := by decide +kernel
  have after : "\", parameter ? parameter : \"\");\n" = "\"" ++ ", parameter ? parameter : \"\");\n" := by
    decide +kernel
  unfold Encoder.commandText quote
  rw [opening, before, after]
  simp only [String.append_assoc]

/-- A command's text tells its message and where it ends. -/
theorem commandText_inj {step message message' indent : String} (plain : '\\' ∉ message.toList)
    (plain' : '\\' ∉ message'.toList)
    (h : (Encoder.commandText step message indent).toList ++ rest =
      (Encoder.commandText step message' indent).toList ++ rest') : message = message' ∧ rest = rest' := by
  simp only [commandText_eq, String.toList_append, List.append_assoc] at h
  have quoted := List.append_cancel_left (List.append_cancel_left (List.append_cancel_left
    (List.append_cancel_left (List.append_cancel_left h))))
  obtain ⟨same, ended⟩ := quote_inj plain plain' quoted
  exact ⟨same, List.append_cancel_left (List.append_cancel_left (List.append_cancel_left ended))⟩

end

/-- An integer tells its number and where it ends. -/
theorem integer_inj {n m : Int} {rest rest' : List Char}
    (h : (toString n).toList ++ ',' :: rest = (toString m).toList ++ ',' :: rest') : n = m ∧ rest = rest' := by
  have absent (n : Int) : ',' ∉ (toString n).toList := by
    intro mem
    rcases Number.mem_toString mem with sign | digit
    · cases sign
    · cases digit
  obtain ⟨same, ended⟩ := cut_of_append_eq (absent n) (absent m) h
  exact ⟨Number.toString_inj (String.toList_injective same), ended⟩

namespace Datum

mutual

/-- There is no backslash in any text of the datum, and every number is an integer. -/
def isPlain : Datum → Bool
  | .quoted text | .bare text | .member _ text | .command text => !text.toList.contains '\\'
  | .flag _ | .integer _ => true
  | .decimal _ => false
  | .object entries => entriesPlain entries
  | .list items => itemsPlain items

def entriesPlain : List (String × Datum) → Bool
  | [] => true
  | (_, datum) :: rest => isPlain datum && entriesPlain rest

def itemsPlain : List Datum → Bool
  | [] => true
  | datum :: rest => isPlain datum && itemsPlain rest

end

/-- Nothing of the datum is written before the brace, quote, number or name that tells its form. -/
def Opens : Datum → Prop
  | .bare _ | .decimal _ => False
  | .member enum _ => Text.isIdentifier enum = true
  | _ => True

mutual

/-- The data are of the same form: objects with the same names, members of the same enum, lists of items
of the same form, or texts, truth values or integers both. -/
inductive Alike : Datum → Datum → Prop
  | quoted {text text'} : Alike (.quoted text) (.quoted text')
  | flag {value value'} : Alike (.flag value) (.flag value')
  | integer {value value'} : Alike (.integer value) (.integer value')
  | member {enum name name'} : Alike (.member enum name) (.member enum name')
  | command {message message'} : Alike (.command message) (.command message')
  | object {entries entries'} : AlikeEach entries entries' → Alike (.object entries) (.object entries')
  | list {items items'} : AlikeAll items items' → Alike (.list items) (.list items')

inductive AlikeEach : List (String × Datum) → List (String × Datum) → Prop
  | nil : AlikeEach [] []
  | cons {name datum datum' rest rest'} : Alike datum datum' → AlikeEach rest rest' →
      AlikeEach ((name, datum) :: rest) ((name, datum') :: rest')

inductive AlikeAll : List Datum → List Datum → Prop
  | nil : AlikeAll [] []
  | shorter {item rest} : Opens item → AlikeAll [] (item :: rest)
  | longer {item rest} : Opens item → AlikeAll (item :: rest) []
  | cons {datum datum' rest rest'} : Alike datum datum' → AlikeAll rest rest' →
      AlikeAll (datum :: rest) (datum' :: rest')

end

/-- The lines of a layout, with a line break before each. -/
def text (lines : List String) : List Char := lines.flatMap fun line => '\n' :: line.toList

@[simp] theorem text_cons (line : String) (lines : List String) :
    text (line :: lines) = '\n' :: (line.toList ++ text lines) := by
  simp [text]

variable {step : String}

theorem toList_layout_object (entries : List (String × Datum)) (indent : String) :
    (layout step (.object entries) indent).toList =
      '\x7b' :: (text (layoutEntries step entries (indent ++ step)) ++
        '\n' :: (indent.toList ++ ['\x7d'])) := by
  rw [layout, toList_lines]
  simp [text]

theorem toList_layout_list (items : List Datum) (indent : String) :
    (layout step (.list items) indent).toList =
      '[' :: (text (layoutItems step items (indent ++ step)) ++ '\n' :: (indent.toList ++ [']'])) := by
  rw [layout, toList_lines]
  simp [text]

theorem append_ne_close {before after rest : List Char} (absent : ']' ∉ before)
    (opens : after.head? ≠ some ']') : before ++ after ≠ ']' :: rest := by
  intro same
  cases before with
  | nil =>
    rw [List.nil_append] at same
    rw [same] at opens
    exact opens rfl
  | cons first others =>
    obtain ⟨rfl, -⟩ := List.cons.inj same
    exact absent List.mem_cons_self

/-- What opens an item does not close a list. -/
theorem layout_ne_close {datum : Datum} (opens : datum.Opens) (indent : String) (tail rest : List Char) :
    (layout step datum indent).toList ++ ',' :: tail ≠ ']' :: rest := by
  cases datum with
  | quoted text => simp [layout, quote]
  | bare text => exact opens.elim
  | decimal value => exact opens.elim
  | flag value => cases value <;> simp [layout]
  | integer value =>
    rw [layout]
    refine append_ne_close (fun mem => ?_) (by simp)
    rcases Number.mem_toString mem with sign | digit
    · cases sign
    · cases digit
  | member enum name =>
    have absent := not_mem_of_isIdentifier (c := ']') opens (by decide) (by decide) (by decide)
    simp only [layout, memberRef]
    split
    all_goals
      simp only [String.toList_append, List.append_assoc]
      exact append_ne_close absent (by simp)
  | command message =>
    rw [layout, commandText_eq, String.toList_append, String.toList_append]
    exact fun same => absurd (List.cons.inj same).1 (by decide)
  | object entries => simp [toList_layout_object]
  | list items => simp [toList_layout_list]

/-- The line of an item is not the line that closes the list. -/
theorem item_ne_close (blank : step.toList.head? ≠ some ']') {datum : Datum} (opens : datum.Opens)
    (indent : String) (tail rest : List Char) :
    step.toList ++ ((layout step datum indent).toList ++ ',' :: tail) ≠ ']' :: rest := by
  cases deeper : step.toList with
  | nil => exact layout_ne_close opens indent tail rest
  | cons first others =>
    intro same
    obtain ⟨rfl, -⟩ := List.cons.inj same
    rw [deeper] at blank
    exact blank rfl

mutual

/-- **The layout of a datum tells the datum and where it ends**, among the data of the same form. -/
theorem layout_inj (blank : step.toList.head? ≠ some ']') {datum datum' : Datum}
    (alike : Alike datum datum') (plain : datum.isPlain = true) (plain' : datum'.isPlain = true)
    (indent : String) {rest rest' : List Char}
    (h : (layout step datum indent).toList ++ ',' :: rest =
      (layout step datum' indent).toList ++ ',' :: rest') : datum = datum' ∧ rest = rest' := by
  cases alike with
  | quoted =>
    rw [layout, layout] at h
    simp only [isPlain, Bool.not_eq_true', List.contains_eq_mem, decide_eq_false_iff_not] at plain plain'
    obtain ⟨rfl, ended⟩ := quote_inj plain plain' h
    exact ⟨rfl, (List.cons.inj ended).2⟩
  | @flag value value' =>
    rw [layout, layout] at h
    cases value <;> cases value' <;> simp_all
  | integer =>
    rw [layout, layout] at h
    obtain ⟨rfl, ended⟩ := integer_inj h
    exact ⟨rfl, ended⟩
  | member =>
    rw [layout, layout] at h
    simp only [isPlain, Bool.not_eq_true', List.contains_eq_mem, decide_eq_false_iff_not] at plain plain'
    obtain ⟨rfl, ended⟩ := memberRef_inj plain plain' h
    exact ⟨rfl, ended⟩
  | command =>
    rw [layout, layout] at h
    simp only [isPlain, Bool.not_eq_true', List.contains_eq_mem, decide_eq_false_iff_not] at plain plain'
    obtain ⟨rfl, ended⟩ := commandText_inj plain plain' h
    exact ⟨rfl, (List.cons.inj ended).2⟩
  | object each =>
    rw [toList_layout_object, toList_layout_object] at h
    simp only [List.cons_append, List.append_assoc, List.cons.injEq, true_and] at h
    obtain ⟨rfl, ended⟩ := layoutEntries_inj blank each plain plain' _ h
    exact ⟨rfl, by simpa using ended⟩
  | list all =>
    rw [toList_layout_list, toList_layout_list] at h
    simp only [List.cons_append, List.append_assoc, List.cons.injEq, true_and] at h
    obtain ⟨rfl, ended⟩ := layoutItems_inj blank all plain plain' indent h
    exact ⟨rfl, (List.cons.inj ended).2⟩

theorem layoutEntries_inj (blank : step.toList.head? ≠ some ']') {entries entries' : List (String × Datum)}
    (alike : AlikeEach entries entries') (plain : entriesPlain entries = true)
    (plain' : entriesPlain entries' = true) (indent : String) {rest rest' : List Char}
    (h : text (layoutEntries step entries indent) ++ rest = text (layoutEntries step entries' indent) ++ rest') :
    entries = entries' ∧ rest = rest' := by
  cases alike with
  | nil => exact ⟨rfl, h⟩
  | cons first others =>
    obtain ⟨here, there⟩ := Bool.and_eq_true_iff.1 plain
    obtain ⟨here', there'⟩ := Bool.and_eq_true_iff.1 plain'
    simp only [layoutEntries, text_cons, String.toList_append, List.append_assoc, List.cons_append] at h
    have named := List.append_cancel_left (List.append_cancel_left (List.cons.inj h).2)
    obtain ⟨rfl, next⟩ := layout_inj blank first here here' indent (List.append_cancel_left named)
    obtain ⟨rfl, ended⟩ := layoutEntries_inj blank others there there' indent next
    exact ⟨rfl, ended⟩

theorem layoutItems_inj (blank : step.toList.head? ≠ some ']') {items items' : List Datum}
    (alike : AlikeAll items items') (plain : itemsPlain items = true) (plain' : itemsPlain items' = true)
    (indent : String) {rest rest' : List Char}
    (h : text (layoutItems step items (indent ++ step)) ++ '\n' :: (indent.toList ++ ']' :: rest) =
      text (layoutItems step items' (indent ++ step)) ++ '\n' :: (indent.toList ++ ']' :: rest')) :
    items = items' ∧ rest = rest' := by
  cases alike with
  | nil => exact ⟨rfl, (List.cons.inj (List.append_cancel_left (List.cons.inj h).2)).2⟩
  | shorter opens =>
    simp only [layoutItems, text_cons, String.toList_append, List.append_assoc, List.cons_append] at h
    exact absurd (List.append_cancel_left (List.cons.inj h).2).symm (item_ne_close blank opens _ _ _)
  | longer opens =>
    simp only [layoutItems, text_cons, String.toList_append, List.append_assoc, List.cons_append] at h
    exact absurd (List.append_cancel_left (List.cons.inj h).2) (item_ne_close blank opens _ _ _)
  | cons first others =>
    obtain ⟨here, there⟩ := Bool.and_eq_true_iff.1 plain
    obtain ⟨here', there'⟩ := Bool.and_eq_true_iff.1 plain'
    simp only [layoutItems, text_cons, String.toList_append, List.append_assoc, List.cons_append] at h
    have deeper := List.append_cancel_left (List.append_cancel_left (List.cons.inj h).2)
    obtain ⟨rfl, next⟩ := layout_inj blank first here here' _ deeper
    obtain ⟨rfl, ended⟩ := layoutItems_inj blank others there there' indent next
    exact ⟨rfl, ended⟩

end

end Datum

end ViewModel.Literal
