import ViewModel.Proofs.Literal.Unbroken

/-!
# Layouts at other indentations

A layout at a deeper indentation is the layout with the added characters after every line break, if no text
of the datum has a line break of its own. Between two layouts of one datum at any indentations and with any
steps only the spaces after line breaks differ, so they have the same lines but for the spaces that these
begin with.

* `indented`, `layout_append`: the shift of a text, and that a layout is one;
* `Reindented`, `reindented_layout`: texts that differ in the spaces after line breaks, and that the layouts of
  one datum are such;
* `Reindented.dedentedLines_eq`: these have the same lines but for leading spaces.
-/

namespace ViewModel.Literal

/-- The text with the inserted one after every line break. -/
def indented (inserted text : String) : String :=
  String.ofList (text.toList.flatMap fun c => if c = '\n' then '\n' :: inserted.toList else [c])

section

variable (inserted : String)

theorem indented_append (first second : String) :
    indented inserted (first ++ second) = indented inserted first ++ indented inserted second := by
  simp only [indented, String.toList_append, List.flatMap_append, String.ofList_append]

theorem indented_of_unbroken {text : String} (whole : Unbroken text) : indented inserted text = text := by
  have same : ∀ chars : List Char, '\n' ∉ chars →
      (chars.flatMap fun c => if c = '\n' then '\n' :: inserted.toList else [c]) = chars := by
    intro chars absent
    induction chars with
    | nil => rfl
    | cons c rest ih =>
      rw [List.mem_cons, not_or] at absent
      rw [List.flatMap_cons, if_neg (Ne.symm absent.1), ih absent.2]
      rfl
  rw [indented, same _ whole, String.ofList_toList]

theorem indented_lineBreak : indented inserted "\n" = "\n" ++ inserted := by
  apply String.toList_injective
  simp [indented]

/-- A text that ends in its only line break. -/
theorem indented_line {text : String} (whole : Unbroken text) :
    indented inserted (text ++ "\n") = text ++ "\n" ++ inserted := by
  rw [indented_append, indented_of_unbroken inserted whole, indented_lineBreak, String.append_assoc]

/-- The shift of lines: every line but the first begins with the inserted text. -/
theorem indented_lines (first : String) (lines : List String) :
    indented inserted ("\n".intercalate (first :: lines)) =
      "\n".intercalate (indented inserted first :: lines.map fun line => inserted ++ indented inserted line) := by
  induction lines generalizing first with
  | nil => simp only [List.map_nil, String.intercalate_singleton]
  | cons line rest ih =>
    have head (opening : String) (others : List String) :
        "\n".intercalate ((inserted ++ opening) :: others) = inserted ++ "\n".intercalate (opening :: others) := by
      cases others with
      | nil => simp only [String.intercalate_singleton]
      | cons => simp only [String.intercalate_cons_cons, String.append_assoc]
    rw [String.intercalate_cons_cons, indented_append, indented_append, ih, indented_lineBreak, List.map_cons,
      String.intercalate_cons_cons, head]
    simp only [String.append_assoc]

end

namespace Datum

mutual

/-- No text and no name in the datum has a line break in it. -/
def IsUnbroken : Datum → Prop
  | .quoted text | .bare text | .command text => Unbroken text
  | .member enum name => Unbroken enum ∧ Unbroken name
  | .flag _ | .integer _ | .decimal _ => True
  | .object entries => EntriesUnbroken entries
  | .list items => ItemsUnbroken items

def EntriesUnbroken : List (String × Datum) → Prop
  | [] => True
  | (name, datum) :: rest => (Unbroken name ∧ IsUnbroken datum) ∧ EntriesUnbroken rest

def ItemsUnbroken : List Datum → Prop
  | [] => True
  | datum :: rest => IsUnbroken datum ∧ ItemsUnbroken rest

end

theorem entriesUnbroken_iff {entries : List (String × Datum)} :
    EntriesUnbroken entries ↔ ∀ entry ∈ entries, Unbroken entry.1 ∧ entry.2.IsUnbroken := by
  induction entries with
  | nil => simp [EntriesUnbroken]
  | cons entry rest ih => rw [EntriesUnbroken, List.forall_mem_cons, ih]

theorem itemsUnbroken_iff {items : List Datum} : ItemsUnbroken items ↔ ∀ item ∈ items, item.IsUnbroken := by
  induction items with
  | nil => simp [ItemsUnbroken]
  | cons item rest ih => rw [ItemsUnbroken, List.forall_mem_cons, ih]

section

variable {step : String} (inserted : String)

theorem commandText_append (blank : Unbroken step) {message indent : String} (whole : Unbroken message)
    (level : Unbroken indent) :
    Encoder.commandText step message (inserted ++ indent) =
      indented inserted (Encoder.commandText step message indent) := by
  have opening : indented inserted "parameter?: unknown) => \x7b\n" =
      "parameter?: unknown) => \x7b\n" ++ inserted :=
    @indented_line inserted "parameter?: unknown) => \x7b" (by decide)
  have closing : indented inserted ", parameter ? parameter : \"\");\n" =
      ", parameter ? parameter : \"\");\n" ++ inserted :=
    @indented_line inserted ", parameter ? parameter : \"\");" (by decide)
  have bracket : indented inserted "(" = "(" := indented_of_unbroken inserted (by decide)
  have call : indented inserted "console.log(" = "console.log(" := indented_of_unbroken inserted (by decide)
  have brace : indented inserted "\x7d" = "\x7d" := indented_of_unbroken inserted (by decide)
  simp only [commandText_eq, indented_append, opening, closing, bracket, call, brace,
    indented_of_unbroken inserted level, indented_of_unbroken inserted blank,
    indented_of_unbroken inserted (unbroken_quote whole), String.append_assoc]

mutual

/-- **A deeper layout is the layout with the added text after every line break.** -/
theorem layout_append (blank : Unbroken step) {datum : Datum} (whole : datum.IsUnbroken) {indent : String}
    (level : Unbroken indent) :
    layout step datum (inserted ++ indent) = indented inserted (layout step datum indent) := by
  have deeper : Unbroken (indent ++ step) := unbroken_append_iff.2 ⟨level, blank⟩
  cases datum with
  | quoted text =>
    rw [IsUnbroken] at whole
    rw [layout, layout, indented_of_unbroken inserted (unbroken_quote whole)]
  | bare text =>
    rw [IsUnbroken] at whole
    rw [layout, layout, indented_of_unbroken inserted whole]
  | flag value =>
    rw [layout, layout, indented_of_unbroken inserted]
    cases value <;> decide
  | integer value =>
    rw [layout, layout, indented_of_unbroken inserted (Number.unbroken_toString_int value)]
  | decimal value =>
    rw [layout, layout, indented_of_unbroken inserted (unbroken_plain rfl)]
  | member enum name =>
    rw [IsUnbroken] at whole
    rw [layout, layout, indented_of_unbroken inserted (unbroken_memberRef whole.2 whole.1)]
  | command message =>
    rw [IsUnbroken] at whole
    rw [layout, layout]
    exact commandText_append inserted blank whole level
  | object entries =>
    rw [IsUnbroken] at whole
    have brace : Unbroken "\x7b" := by decide
    have closing : Unbroken (indent ++ "\x7d") := unbroken_append_iff.2 ⟨level, by decide⟩
    rw [layout, layout, List.cons_append, List.cons_append, indented_lines, indented_of_unbroken inserted brace,
      List.map_append, String.append_assoc, layoutEntries_append blank whole deeper, List.map_singleton,
      indented_of_unbroken inserted closing, String.append_assoc]
  | list items =>
    rw [IsUnbroken] at whole
    have bracket : Unbroken "[" := by decide
    have closing : Unbroken (indent ++ "]") := unbroken_append_iff.2 ⟨level, by decide⟩
    rw [layout, layout, List.cons_append, List.cons_append, indented_lines, indented_of_unbroken inserted bracket,
      List.map_append, String.append_assoc, layoutItems_append blank whole deeper, List.map_singleton,
      indented_of_unbroken inserted closing, String.append_assoc]

theorem layoutEntries_append (blank : Unbroken step) {entries : List (String × Datum)}
    (whole : EntriesUnbroken entries) {indent : String} (level : Unbroken indent) :
    layoutEntries step entries (inserted ++ indent) =
      (layoutEntries step entries indent).map fun line => inserted ++ indented inserted line := by
  cases entries with
  | nil => rw [layoutEntries, layoutEntries, List.map_nil]
  | cons entry rest =>
    obtain ⟨name, datum⟩ := entry
    rw [EntriesUnbroken] at whole
    obtain ⟨⟨named, inner⟩, others⟩ := whole
    have colon : indented inserted ": " = ": " := indented_of_unbroken inserted (by decide)
    have comma : indented inserted "," = "," := indented_of_unbroken inserted (by decide)
    rw [layoutEntries, layoutEntries, List.map_cons, layoutEntries_append blank others level,
      layout_append blank inner level]
    simp only [indented_append, indented_of_unbroken inserted level, indented_of_unbroken inserted named, colon,
      comma, String.append_assoc]

theorem layoutItems_append (blank : Unbroken step) {items : List Datum} (whole : ItemsUnbroken items)
    {indent : String} (level : Unbroken indent) :
    layoutItems step items (inserted ++ indent) =
      (layoutItems step items indent).map fun line => inserted ++ indented inserted line := by
  cases items with
  | nil => rw [layoutItems, layoutItems, List.map_nil]
  | cons datum rest =>
    rw [ItemsUnbroken] at whole
    obtain ⟨inner, others⟩ := whole
    have comma : indented inserted "," = "," := indented_of_unbroken inserted (by decide)
    rw [layoutItems, layoutItems, List.map_cons, layoutItems_append blank others level,
      layout_append blank inner level]
    simp only [indented_append, indented_of_unbroken inserted level, comma, String.append_assoc]

end

end

end Datum

/-- The same characters, but for the number of spaces right after each line break. -/
inductive Reindented : List Char → List Char → Prop
  | nil : Reindented [] []
  | char {c : Char} {chars chars' : List Char} : Reindented chars chars' → Reindented (c :: chars) (c :: chars')
  | lineBreak {n n' : Nat} {chars chars' : List Char} : Reindented chars chars' →
      Reindented ('\n' :: (List.replicate n ' ' ++ chars)) ('\n' :: (List.replicate n' ' ' ++ chars'))

namespace Reindented

theorem refl (chars : List Char) : Reindented chars chars := by
  induction chars with
  | nil => exact nil
  | cons c rest ih => exact char ih

theorem append {first first' second second' : List Char} (h : Reindented first first')
    (h' : Reindented second second') : Reindented (first ++ second) (first' ++ second') := by
  induction h with
  | nil => exact h'
  | char _ ih => exact char ih
  | lineBreak _ ih =>
    simp only [List.cons_append, List.append_assoc]
    exact lineBreak ih

theorem splitOn_lineBreak (chars : List Char) : ('\n' :: chars).splitOn '\n' = [] :: chars.splitOn '\n' := by
  rw [List.splitOn_cons_eq_if_modifyHead]
  rfl

/-- What is no line break belongs to the first line. -/
theorem splitOn_of_unbroken {before : List Char} (whole : '\n' ∉ before) (chars : List Char) :
    (before ++ chars).splitOn '\n' = (chars.splitOn '\n').modifyHead (before ++ ·) := by
  induction before with
  | nil => cases split : chars.splitOn '\n' <;> rw [List.nil_append, split] <;> rfl
  | cons c rest ih =>
    rw [List.mem_cons, not_or] at whole
    have other : (c == '\n') = false := by simpa using Ne.symm whole.1
    rw [List.cons_append, List.splitOn_cons_eq_if_modifyHead, other, ih whole.2]
    cases chars.splitOn '\n' <;> rfl

theorem dropSpaces_append (n : Nat) (chars : List Char) :
    (List.replicate n ' ' ++ chars).dropWhile (· == ' ') = chars.dropWhile (· == ' ') := by
  apply List.dropWhile_append_of_pos
  intro c mem
  rw [List.eq_of_mem_replicate mem]
  rfl

/-- The first lines are the same, and the others but for leading spaces. -/
theorem exists_splitOn_eq {chars chars' : List Char} (h : Reindented chars chars') :
    ∃ first lines lines', chars.splitOn '\n' = first :: lines ∧ chars'.splitOn '\n' = first :: lines' ∧
      lines.map (List.dropWhile (· == ' ')) = lines'.map (List.dropWhile (· == ' ')) := by
  induction h with
  | nil => exact ⟨[], [], [], rfl, rfl, rfl⟩
  | @char c chars chars' _ ih =>
    obtain ⟨first, lines, lines', split, split', same⟩ := ih
    by_cases broken : c = '\n'
    · subst broken
      refine ⟨[], first :: lines, first :: lines', ?_, ?_, ?_⟩
      · rw [splitOn_lineBreak, split]
      · rw [splitOn_lineBreak, split']
      · rw [List.map_cons, List.map_cons, same]
    · have whole : '\n' ∉ [c] := fun mem => broken (List.mem_singleton.1 mem).symm
      have here := splitOn_of_unbroken whole chars
      have there := splitOn_of_unbroken whole chars'
      rw [split] at here
      rw [split'] at there
      exact ⟨c :: first, lines, lines', here, there, same⟩
  | @lineBreak n n' chars chars' _ ih =>
    obtain ⟨first, lines, lines', split, split', same⟩ := ih
    have blank (n : Nat) : '\n' ∉ List.replicate n ' ' := by simp
    refine ⟨[], (List.replicate n ' ' ++ first) :: lines, (List.replicate n' ' ' ++ first) :: lines', ?_, ?_, ?_⟩
    · rw [splitOn_lineBreak, splitOn_of_unbroken (blank n), split]
      rfl
    · rw [splitOn_lineBreak, splitOn_of_unbroken (blank n'), split']
      rfl
    · rw [List.map_cons, List.map_cons, dropSpaces_append, dropSpaces_append, same]

end Reindented

/-- The lines of a text, without the spaces that they begin with. -/
def dedentedLines (text : String) : List (List Char) :=
  (text.toList.splitOn '\n').map (List.dropWhile (· == ' '))

/-- Texts that differ only in the spaces after line breaks have the same lines but for leading spaces. -/
theorem Reindented.dedentedLines_eq {text text' : String} (h : Reindented text.toList text'.toList) :
    dedentedLines text = dedentedLines text' := by
  obtain ⟨first, lines, lines', split, split', same⟩ := h.exists_splitOn_eq
  rw [dedentedLines, dedentedLines, split, split', List.map_cons, List.map_cons, same]

namespace Datum

open TypesModule

theorem spaces_append (n m : Nat) : spaces n ++ spaces m = spaces (n + m) := by
  rw [spaces, spaces, spaces, ← String.ofList_append, List.replicate_append_replicate]

/-- A line break and the spaces of its line. -/
theorem reindented_line {rest rest' : List Char} (n n' : Nat) (h : Reindented rest rest') :
    Reindented ('\n' :: ((spaces n).toList ++ rest)) ('\n' :: ((spaces n').toList ++ rest')) := by
  rw [spaces, spaces, String.toList_ofList, String.toList_ofList]
  exact .lineBreak h

variable (width width' : Nat)

theorem reindented_commandText (message : String) (n n' : Nat) :
    Reindented (Encoder.commandText (spaces width) message (spaces n)).toList
      (Encoder.commandText (spaces width') message (spaces n')).toList := by
  have opening : "parameter?: unknown) => \x7b\n".toList = "parameter?: unknown) => \x7b".toList ++ ['\n'] := rfl
  have closing : ", parameter ? parameter : \"\");\n".toList =
      ", parameter ? parameter : \"\");".toList ++ ['\n'] := rfl
  have deeper (n width : Nat) (rest : String) : spaces n ++ (spaces width ++ rest) = spaces (n + width) ++ rest := by
    rw [← String.append_assoc, spaces_append]
  have last := reindented_line n n' (.refl "\x7d".toList)
  have call := reindented_line (n + width) (n' + width') (((Reindented.refl "console.log(".toList).append
    ((Reindented.refl (quote message).toList).append
      ((Reindented.refl ", parameter ? parameter : \"\");".toList).append last))))
  simp only [commandText_eq, deeper, String.toList_append, opening, closing, List.append_assoc,
    List.singleton_append]
  exact (Reindented.refl _).append ((Reindented.refl _).append call)

mutual

/-- The layouts of one datum differ only in the spaces after line breaks. -/
theorem reindented_layout (datum : Datum) (n n' : Nat) :
    Reindented (layout (spaces width) datum (spaces n)).toList
      (layout (spaces width') datum (spaces n')).toList := by
  cases datum with
  | quoted text => rw [layout, layout]; exact .refl _
  | bare text => rw [layout, layout]; exact .refl _
  | flag value => rw [layout, layout]; exact .refl _
  | integer value => rw [layout, layout]; exact .refl _
  | decimal value => rw [layout, layout]; exact .refl _
  | member enum name => rw [layout, layout]; exact .refl _
  | command message =>
    rw [layout, layout]
    exact reindented_commandText width width' message n n'
  | object entries =>
    rw [toList_layout_object, toList_layout_object, spaces_append, spaces_append]
    exact .char ((reindented_entries entries _ _).append (reindented_line n n' (.refl _)))
  | list items =>
    rw [toList_layout_list, toList_layout_list, spaces_append, spaces_append]
    exact .char ((reindented_items items _ _).append (reindented_line n n' (.refl _)))

theorem reindented_entries (entries : List (String × Datum)) (n n' : Nat) :
    Reindented (text (layoutEntries (spaces width) entries (spaces n)))
      (text (layoutEntries (spaces width') entries (spaces n'))) := by
  cases entries with
  | nil => rw [layoutEntries, layoutEntries]; exact .refl _
  | cons entry rest =>
    obtain ⟨name, datum⟩ := entry
    have inner := reindented_layout datum n n'
    have others := reindented_entries rest n n'
    rw [layoutEntries, layoutEntries, text_cons, text_cons]
    simp only [String.toList_append, List.append_assoc]
    exact reindented_line n n' ((Reindented.refl _).append ((Reindented.refl _).append
      (inner.append ((Reindented.refl _).append others))))

theorem reindented_items (items : List Datum) (n n' : Nat) :
    Reindented (text (layoutItems (spaces width) items (spaces n)))
      (text (layoutItems (spaces width') items (spaces n'))) := by
  cases items with
  | nil => rw [layoutItems, layoutItems]; exact .refl _
  | cons datum rest =>
    have inner := reindented_layout datum n n'
    have others := reindented_items rest n n'
    rw [layoutItems, layoutItems, text_cons, text_cons]
    simp only [String.toList_append, List.append_assoc]
    exact reindented_line n n' (inner.append ((Reindented.refl _).append others))

end

end Datum

end ViewModel.Literal
