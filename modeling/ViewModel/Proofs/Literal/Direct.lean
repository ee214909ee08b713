import ViewModel.Proofs.Literal.Encoded
import ViewModel.Proofs.Literal.Scalar
import ViewModel.Proofs.Literal.Unbroken

/-!
# Properties that are written directly

Texts, numbers, truth values, fonts, images, brushes and commands are written without going on to another
type. Whatever stands in the data, such a property is written as a literal of its own kind.

* `guarded_escape`: what is escaped has a backslash before every quote;
* `opensAsNumber_toString`, `opensAsNumber_written`: a number is told from a word by its first character;
* `IsLiteralOf`, `isLiteralOf_layout`: the literals of a kind, and that the datum of a property is written as one;
* `outcome_of_given`, `warns_iff_of_hasKind`: what is written for a number or truth value, and when it is warned
  about;
* `direct_literals`: every direct property of an object is written as a literal of its kind, and only a value
  that is none of the kind is warned about.
-/

namespace ViewModel

/-- The text opens like a number: with a digit or an exponent, after a sign if there is one. -/
def OpensAsNumber (text : String) : Prop :=
  ∃ sign c rest, text.toList = sign ++ c :: rest ∧ (sign = [] ∨ sign = ['-']) ∧ (c.isDigit = true ∨ c = 'e')

/-- What is written for infinite and undefined numbers and for truth values. -/
def wordValues : List String := ["inf", "-inf", "nan", "true", "false"]

theorem OpensAsNumber.not_mem_wordValues {text : String} (opens : OpensAsNumber text) : text ∉ wordValues := by
  obtain ⟨sign, c, rest, chars, signs, first⟩ := opens
  intro mem
  simp only [wordValues, List.mem_cons, List.not_mem_nil, or_false] at mem
  rcases signs with rfl | rfl <;> rcases mem with rfl | rfl | rfl | rfl | rfl <;> simp at chars <;>
    obtain ⟨rfl, -⟩ := chars <;> simp at first

namespace Number

theorem opensAsNumber_toString (n : Int) : OpensAsNumber (toString n) := by
  obtain ⟨c, rest, held⟩ := List.exists_cons_of_ne_nil (Nat.toDigits_ne_nil (n := n.natAbs) (b := 10))
  have digit : c.isDigit = true := isDigit_of_mem_toDigits (held ▸ List.mem_cons_self)
  refine ⟨_, c, rest, held ▸ toList_toString n, ?_, .inl digit⟩
  split
  · exact .inr rfl
  · exact .inl rfl

/-- A positive decimal begins with a digit, or without any right with the exponent. -/
theorem exists_written_eq (d : Decimal) :
    ∃ c rest, d.written.toList = c :: rest ∧ (c.isDigit = true ∨ c = 'e') := by
  have digits : ∀ c ∈ (strippedDigits d.digits).1, c.isDigit = true :=
    fun c mem => isDigit_of_mem_strippedDigits mem
  unfold Decimal.written
  generalize strippedDigits d.digits = stripped at digits ⊢
  obtain ⟨kept, zeros⟩ := stripped
  dsimp only at digits ⊢
  split
  · split
    · exact ⟨'0', _, by simp [String.toList_append]; rfl, .inl rfl⟩
    · cases kept with
      | nil => exact ⟨'0', _, by simp [String.toList_append, List.replicate_succ]; rfl, .inl rfl⟩
      | cons c rest =>
        refine ⟨c, _, by simp [String.toList_append, List.take_succ_cons]; rfl, .inl ?_⟩
        exact digits c List.mem_cons_self
  · cases kept with
    | nil => exact ⟨'e', _, by simp [String.toList_append]; rfl, .inr rfl⟩
    | cons c rest =>
      refine ⟨c, _, by simp [String.toList_append]; rfl, .inl ?_⟩
      exact digits c List.mem_cons_self

theorem opensAsNumber_written {x : Binary} (finite : x.isFinite = true) : OpensAsNumber x.written := by
  cases x with
  | finite negative significand exponent =>
    unfold Binary.written
    have positive : ∃ c rest, (if significand = 0 then "0.0" else (shortest significand exponent).written).toList =
        c :: rest ∧ (c.isDigit = true ∨ c = 'e') := by
      split
      · exact ⟨'0', _, rfl, .inl rfl⟩
      · exact exists_written_eq _
    obtain ⟨c, rest, held, first⟩ := positive
    cases negative with
    | false => exact ⟨[], c, rest, by rw [String.toList_append, held]; rfl, .inl rfl, first⟩
    | true => exact ⟨['-'], c, rest, by rw [String.toList_append, held]; rfl, .inr rfl, first⟩
  | infinite => cases finite
  | undefined => cases finite

end Number

namespace Literal

open Schema Attempt

/-- Every quote has a backslash right before it. -/
def Guarded (chars : List Char) : Prop :=
  ∀ before after, chars = before ++ '"' :: after → before.getLast? = some '\\'

theorem guarded_escape (chars : List Char) : Guarded (chars.flatMap escapeChar) := by
  induction chars with
  | nil => simp [Guarded]
  | cons c rest ih =>
    intro before after same
    rw [List.flatMap_cons] at same
    by_cases quote : c = '"'
    · subst quote
      rcases before with _ | ⟨first, _ | ⟨second, before⟩⟩
      · simp [escapeChar] at same
      · simp only [escapeChar, if_true, List.cons_append, List.nil_append, List.cons.injEq] at same
        obtain ⟨rfl, -⟩ := same
        rfl
      · simp only [escapeChar, if_true, List.cons_append, List.nil_append, List.cons.injEq] at same
        obtain ⟨-, -, same⟩ := same
        have guarded := ih before after same
        simp [List.getLast?_cons, guarded]
    · rcases before with _ | ⟨first, before⟩
      · simp [escapeChar, quote] at same
      · simp only [escapeChar, quote, if_false, List.cons_append, List.nil_append, List.cons.injEq] at same
        have guarded := ih before after same.2
        simp [List.getLast?_cons, guarded]

/-- A text between quotes, in which every other quote has a backslash before it. -/
def IsQuoted (literal : String) : Prop :=
  ∃ inner, literal.toList = '"' :: (inner ++ ['"']) ∧ Guarded inner

theorem isQuoted_quote (text : String) : IsQuoted (quote text) := by
  refine ⟨text.toList.flatMap escapeChar, ?_, guarded_escape _⟩
  simp [quote, escape]

/-- A finite number as it is written. -/
def IsNumeral (literal : String) : Prop :=
  (∃ n : Int, literal = plain (.integer n)) ∨
    ∃ x, (Number.Binary.ofFloat x).isFinite = true ∧ literal = plain (.decimal x)

/-- No number is written like an infinite one, an undefined one or a truth value. -/
theorem IsNumeral.opensAsNumber {literal : String} (h : IsNumeral literal) : OpensAsNumber literal := by
  rcases h with ⟨n, rfl⟩ | ⟨x, finite, rfl⟩
  · exact Number.opensAsNumber_toString n
  · unfold plain
    dsimp only
    split
    · exact Number.opensAsNumber_toString _
    · exact Number.opensAsNumber_written finite

/-- The literals of a kind that is written directly, at an indentation. -/
def IsLiteralOf (step indent : String) (kind : PropertyKind) (literal : String) : Prop :=
  match kind with
  | .string .. | .image _ | .brush => IsQuoted literal
  | .number .. => IsNumeral literal ∧ literal ∉ wordValues
  | .boolean => literal = "true" ∨ literal = "false"
  | .font => ∃ member, literal = memberRef TypesModule.fontEnum member
  | .command => literal = commandNotDefined ∨ literal = commandNotRecognized ∨
      ∃ message, literal = Encoder.commandText step message indent
  | .enum _ | .object _ | .collection _ => True

namespace Encoder

variable (encoder : Encoder)

/-- The datum of a property is written as a literal of the property's kind. -/
theorem isLiteralOf_layout {tree : Tree} (textual : tree.isTextual = true) (name property indent : String)
    (kind : PropertyKind) :
    IsLiteralOf encoder.step indent kind
      ((encoder.entryDatum name property tree kind).layout encoder.step indent) := by
  cases kind with
  | string =>
    rw [entryDatum, Datum.layout]
    exact isQuoted_quote _
  | number low high count =>
    have numeral : IsNumeral
        ((encoder.entryDatum name property tree (.number low high count)).layout encoder.step indent) := by
      rw [entryDatum]
      split
      · rw [Datum.layout]
        exact .inl ⟨_, rfl⟩
      · rename_i x scalar
        obtain ⟨value, given, scalar⟩ := Option.map_eq_some_iff.1 scalar
        rw [Datum.layout]
        exact .inr ⟨x, Tree.finite_of_scalar (Tree.textual_of_first? textual given) scalar, rfl⟩
      · rw [Datum.layout]
        exact .inl ⟨0, rfl⟩
    exact ⟨numeral, numeral.opensAsNumber.not_mem_wordValues⟩
  | boolean =>
    rw [entryDatum]
    split
    · rename_i value _
      rw [Datum.layout]
      cases value <;> simp [IsLiteralOf]
    · rw [Datum.layout]
      simp [IsLiteralOf]
  | font =>
    rw [entryDatum, Datum.layout]
    exact ⟨_, rfl⟩
  | image =>
    rw [entryDatum]
    split <;> rw [Datum.layout] <;> exact isQuoted_quote _
  | brush =>
    rw [entryDatum]
    split <;> rw [Datum.layout] <;> exact isQuoted_quote _
  | command =>
    rw [entryDatum]
    split
    · rw [Datum.layout]
      exact .inr (.inr ⟨_, rfl⟩)
    · rw [Datum.layout]
      split
      · exact .inr (.inl rfl)
      · exact .inl rfl
  | enum | object | collection => exact trivial

section

variable {slot : Slot} (textual : slot.tree.isTextual = true) {type : ScalarType} {kind : PropertyKind}
  (h : type.HasKind kind)
include textual h

/-- A number or truth value that is not given is the default of its kind. -/
theorem entry_of_not_given (absent : slot.given? = none) : encoder.entry slot kind = pure type.default := by
  cases h with
  | number => rw [entry, numberEntry_of_textual textual, absent]; rfl
  | flag => rw [entry, booleanEntry_of_textual textual, absent]; rfl

/-- A number or truth value that is given is written as itself if it is one of the type. -/
theorem outcome_of_given {value : Tree} (given : slot.given? = some value) :
    (encoder.entry slot kind).outcome =
      .ok (if type.accepts value.scalar then plain value.scalar else type.default) := by
  have obeys := encoder.entry_obeys textual h given
  unfold ScalarType.Obeys at obeys
  split at obeys <;> rename_i accepted
  · rw [obeys, if_pos accepted]
    rfl
  · rw [obeys.1, if_neg accepted]

/-- There is a warning about a number or truth value exactly if one is given that is none of its type. -/
theorem warns_iff_of_hasKind :
    (∃ record ∈ (encoder.entry slot kind).records, record.level = .warning) ↔
      ∃ value, slot.given? = some value ∧ type.accepts value.scalar = false := by
  cases given : slot.given? with
  | none =>
    rw [encoder.entry_of_not_given textual h given]
    exact iff_of_false nofun nofun
  | some value =>
    have obeys := encoder.entry_obeys textual h given
    simp only [Option.some.injEq, exists_eq_left']
    unfold ScalarType.Obeys at obeys
    split at obeys <;> rename_i accepted
    · rw [obeys]
      exact iff_of_false nofun fun refused => Bool.false_ne_true (refused.symm.trans accepted)
    · obtain ⟨-, message, made⟩ := obeys
      refine iff_of_true ?_ (Bool.eq_false_iff.2 accepted)
      rw [made]
      exact ⟨_, List.mem_singleton.2 rfl, rfl⟩

end

/-- **Every property that is written directly gets a literal of its kind.** Whatever tree of data is read as
an object of a class, there is one literal for each declared property: a quoted text, a finite number that is
none of the words for other values, a truth value, a member of the font enum, or one of the two fallbacks or
the function of a command. A number or truth value is warned about exactly if one is given that is none of
its type; it is then written as the default, and else as the value itself if there is one. -/
theorem direct_literals {typeName name : String} {properties : Table PropertyKind}
    (found : encoder.registry.lookup? typeName = some (.classType name properties)) {tree : Tree}
    (textual : tree.isTextual = true) (indent : String) :
    ∃ literal : String × PropertyKind → String,
      (encoder.value typeName tree indent).outcome = .ok ("\n".intercalate ("\x7b" ::
        properties.entries.map (fun property =>
          indent ++ encoder.step ++ property.1 ++ ": " ++ literal property ++ ",") ++ [indent ++ "\x7d"])) ∧
      ∀ property ∈ properties.entries,
        let entry := encoder.entry ⟨name, property.1, tree, indent ++ encoder.step⟩ property.2
        entry.outcome = .ok (literal property) ∧
        IsLiteralOf encoder.step (indent ++ encoder.step) property.2 (literal property) ∧
        ∀ type : ScalarType, type.HasKind property.2 →
          ((∃ record ∈ entry.records, record.level = .warning) ↔
            ∃ value, tree.first? property.1 = some value ∧ type.accepts value.scalar = false) ∧
          literal property =
            match (tree.first? property.1).filter (type.accepts ·.scalar) with
            | some value => plain value.scalar
            | none => type.default := by
  let literal (property : String × PropertyKind) : String :=
    (encoder.entryDatum name property.1 tree property.2).layout encoder.step (indent ++ encoder.step)
  have below : encoder.LaidOutBelow tree.weight := by
    intro child inner _ typeName indent known
    exact encoder.outcome_value_eq_layout inner known indent
  have written (property : String × PropertyKind) :
      (encoder.entry ⟨name, property.1, tree, indent ++ encoder.step⟩ property.2).outcome =
        .ok (literal property) :=
    encoder.outcome_entry_eq_layout textual below property.2
  refine ⟨literal, ?_, ?_⟩
  · exact encoder.outcome_value_of_entries found fun property _ => written property
  intro property _ entry
  refine ⟨written property, encoder.isLiteralOf_layout textual .., ?_⟩
  intro type scalar
  let slot : Slot := ⟨name, property.1, tree, indent ++ encoder.step⟩
  refine ⟨@warns_iff_of_hasKind encoder slot textual type _ scalar, ?_⟩
  apply Except.ok.inj
  rw [← written property]
  cases given : tree.first? property.1 with
  | none =>
    have absent := @entry_of_not_given encoder slot textual type _ scalar given
    rw [absent]
    rfl
  | some value =>
    have present := @outcome_of_given encoder slot textual type _ scalar _ given
    rw [present, Option.filter_some]
    split <;> rfl

/-- The source of a class with a number, a truth value, a text and a command. -/
def panelSource : Source :=
  ⟨"panel.xml", "Class", .element [
    ("Name", .list [.text "Panel"]),
    ("Property", .list [
      .element [("Name", .list [.text "Score"]), ("Type", .list [.text "Number"])],
      .element [("Name", .list [.text "Ready"]), ("Type", .list [.text "Boolean"])],
      .element [("Name", .list [.text "Title"]), ("Type", .list [.text "String"])],
      .element [("Name", .list [.text "Press"]), ("Type", .list [.text "Command"])]])]⟩

def panelProperties : Table PropertyKind :=
  Table.ofList [("Score", .number none none none), ("Ready", .boolean), ("Title", .string none none),
    ("Press", .command)]

def panelRegistry : Registry := Registry.empty.seed.add (.classType "Panel" panelProperties)

/-- A panel whose score is infinite, and with elements in place of the truth value and of the text. -/
def oddPanel : Tree :=
  .element [
    ("Score", .list [.text "inf"]),
    ("Ready", .list [.element []]),
    ("Title", .list [.element [("Bold", .list [.text "\"Go\""])]]),
    ("Panel.Press", .list [.text "stray"])]

/-- The infinite score and the element in place of a truth value are warned about and written as the
defaults; the text is quoted all the same. -/
theorem direct_literals_oddPanel :
    (load [panelSource]).outcome = .ok panelRegistry ∧ oddPanel.isTextual = true ∧
      ∃ literal : String × PropertyKind → String,
        ((Encoder.mk panelRegistry 2 "Bangers").encode "Panel" oddPanel).outcome = .ok ("\n".intercalate
          ("\x7b" :: panelProperties.entries.map (fun property =>
            "  " ++ property.1 ++ ": " ++ literal property ++ ",") ++ ["\x7d"])) ∧
        literal ("Score", .number none none none) = "0" ∧ literal ("Ready", .boolean) = "false" ∧
        IsQuoted (literal ("Title", .string none none)) ∧
        ∃ record ∈ ((Encoder.mk panelRegistry 2 "Bangers").entry ⟨"Panel", "Score", oddPanel, "  "⟩
          (.number none none none)).records, record.level = .warning := by
  have found : panelRegistry.lookup? "Panel" = some (.classType "Panel" panelProperties) := rfl
  obtain ⟨literal, written, each⟩ :=
    direct_literals ⟨panelRegistry, 2, "Bangers"⟩ found (show oddPanel.isTextual = true from rfl) ""
  have held : panelProperties.entries = [("Score", .number none none none), ("Ready", .boolean),
    ("Title", .string none none), ("Press", .command)] := rfl
  obtain ⟨-, -, score⟩ := each ("Score", .number none none none) (by simp [held])
  obtain ⟨-, -, ready⟩ := each ("Ready", .boolean) (by simp [held])
  obtain ⟨-, title, -⟩ := each ("Title", .string none none) (by simp [held])
  obtain ⟨warned, zero⟩ := score .number (.number none none none)
  obtain ⟨-, no⟩ := ready .flag .flag
  exact ⟨rfl, rfl, literal, written, zero, no, title, warned.2 ⟨.text "inf", rfl, rfl⟩⟩

end Encoder

end Literal

end ViewModel
