import ViewModel.Proofs.Literal.Layout
import ViewModel.Proofs.Schema.Loaded

/-!
# Texts without line breaks

A number is written in one line, and so is a value that is shown inside another one, where a line break is
shown by its escape. Hence whatever a literal takes from a tree, from the names of a registry or from the
default font is in one line if no text in the tree and none of these names has a line break in it.

* `Unbroken`: a text in one line;
* `Tree.isUnbroken`, `Registry.isUnbroken`: no text of the tree, and no name that is written, is broken;
* `unbroken_quoted`, `unbroken_plain`, `unbroken_quote`, `unbroken_memberRef`, `unbroken_placeholder`: the parts
  of a literal;
* `isUnbroken_of_firstChild?`, `isUnbroken_of_wrapped?`: what is found in an unbroken tree.
-/

namespace ViewModel

/-- There is no line break in the text. -/
def Unbroken (text : String) : Prop := '\n' ∉ text.toList

instance (text : String) : Decidable (Unbroken text) := inferInstanceAs (Decidable ('\n' ∉ text.toList))

@[simp] theorem unbroken_append_iff {first second : String} :
    Unbroken (first ++ second) ↔ Unbroken first ∧ Unbroken second := by
  simp only [Unbroken, String.toList_append, List.mem_append, not_or]

@[simp] theorem unbroken_ofList_iff {chars : List Char} : Unbroken (String.ofList chars) ↔ '\n' ∉ chars := by
  rw [Unbroken, String.toList_ofList]

theorem unbroken_intercalate {separator : String} (whole : Unbroken separator) {parts : List String}
    (each : ∀ part ∈ parts, Unbroken part) : Unbroken (separator.intercalate parts) := by
  induction parts with
  | nil => exact (by decide : Unbroken "")
  | cons part rest ih =>
    obtain ⟨here, there⟩ := List.forall_mem_cons.1 each
    cases rest with
    | nil =>
      rw [String.intercalate_singleton]
      exact here
    | cons next others =>
      rw [String.intercalate_cons_cons]
      simp only [unbroken_append_iff]
      exact ⟨⟨here, whole⟩, ih there⟩

namespace Number

theorem lineBreak_not_mem_toDigits {base : Nat} (h : 1 < base) (n : Nat) : '\n' ∉ Nat.toDigits base n := by
  have digit (d : Nat) : '\n' ≠ d.digitChar := Ne.symm (Nat.digitChar_ne '\n' rfl)
  induction n using Nat.strongRecOn with
  | ind n ih =>
    rw [Nat.toDigits_eq_if h]
    split
    · simp [digit]
    · simp [digit, ih (n / base) (Nat.div_lt_self (by omega) h)]

theorem unbroken_toString_nat (n : Nat) : Unbroken (toString n) := by
  rw [Nat.toString_eq_ofList_toDigits]
  simp [lineBreak_not_mem_toDigits]

theorem unbroken_toString_int (n : Int) : Unbroken (toString n) := by
  intro mem
  rcases mem_toString mem with sign | digit
  · cases sign
  · cases digit

theorem unbroken_exponentText (exponent : Int) : Unbroken (exponentText exponent) := by
  have digits := unbroken_toString_nat exponent.natAbs
  unfold exponentText
  rw [unbroken_append_iff]
  constructor
  · split <;> decide
  · split
    · exact unbroken_append_iff.2 ⟨by decide, digits⟩
    · exact digits

theorem isDigit_of_mem_strippedDigits {n : Nat} {c : Char} (h : c ∈ (strippedDigits n).1) :
    c.isDigit = true := by
  have kept := (List.dropWhile_sublist (· == '0')).mem (List.mem_reverse.1 h)
  exact Nat.isDigit_of_mem_toDigits (by decide) (by decide) (List.mem_reverse.1 kept)

theorem unbroken_decimal (d : Decimal) : Unbroken d.written := by
  have digits : '\n' ∉ (strippedDigits d.digits).1 := by
    intro mem
    cases isDigit_of_mem_strippedDigits mem
  have zeros (n : Nat) : '\n' ∉ List.replicate n '0' := by simp
  unfold Decimal.written
  generalize strippedDigits d.digits = stripped at digits ⊢
  obtain ⟨kept, count⟩ := stripped
  dsimp only at digits ⊢
  split
  · split
    · simp [digits, zeros, show Unbroken "0." by decide]
    · have padded (n : Nat) : '\n' ∉ kept ++ List.replicate n '0' := by simp [digits, zeros]
      simp only [unbroken_append_iff, unbroken_ofList_iff]
      refine ⟨⟨?_, by decide⟩, ?_⟩
      · exact mt List.mem_of_mem_take (padded _)
      · split
        · decide
        · exact mt List.mem_of_mem_drop (padded _)
  · simp only [unbroken_append_iff, unbroken_ofList_iff]
    refine ⟨⟨⟨?_, ?_⟩, by decide⟩, unbroken_exponentText _⟩
    · exact mt List.mem_of_mem_take digits
    · split
      · decide
      · simp only [unbroken_append_iff, unbroken_ofList_iff]
        exact ⟨by decide, mt List.mem_of_mem_drop digits⟩

theorem unbroken_written (x : Binary) : Unbroken x.written := by
  cases x with
  | undefined => decide
  | infinite negative => cases negative <;> decide
  | finite negative significand exponent =>
    unfold Binary.written
    rw [unbroken_append_iff]
    constructor
    · split <;> decide
    · split
      · decide
      · exact unbroken_decimal _

end Number

namespace Text

theorem lineBreak_not_mem_quotedChar {quote : Char} (mark : quote ≠ '\n') (c : Char) :
    '\n' ∉ quotedChar quote c := by
  have code (width n : Nat) : '\n' ∉ hex width n := by simp [hex, Number.lineBreak_not_mem_toDigits]
  unfold quotedChar
  by_cases broken : c = '\n'
  · subst broken
    simp [Ne.symm mark]
  · have shown : '\n' ≠ c := Ne.symm broken
    repeat' split
    all_goals simp [shown, code]

/-- A text is shown inside another value in one line. -/
theorem unbroken_quoted (text : String) : Unbroken (quoted text) := by
  have mark : quoteFor text.toList ≠ '\n' := by
    unfold quoteFor
    split <;> decide
  rw [quoted, unbroken_ofList_iff]
  simp [Ne.symm mark, lineBreak_not_mem_quotedChar mark]

end Text

namespace Tree

mutual

theorem unbroken_quoted (tree : Tree) : Unbroken tree.quoted := by
  cases tree with
  | nothing => rw [quoted]; decide
  | flag value => rw [quoted]; cases value <;> decide
  | integer value => rw [quoted]; exact Number.unbroken_toString_int value
  | decimal value => rw [quoted]; exact Number.unbroken_written _
  | text value => rw [quoted]; exact Text.unbroken_quoted value
  | list items =>
    rw [quoted]
    have comma : Unbroken ", " := by decide
    have inner := unbroken_intercalate comma (unbroken_quotedItems items)
    simp only [unbroken_append_iff]
    exact ⟨⟨by decide, inner⟩, by decide⟩
  | element fields =>
    rw [quoted]
    have comma : Unbroken ", " := by decide
    have inner := unbroken_intercalate comma (unbroken_quotedFields fields)
    simp only [unbroken_append_iff]
    exact ⟨⟨by decide, inner⟩, by decide⟩

theorem unbroken_quotedItems (items : List Tree) : ∀ part ∈ quotedItems items, Unbroken part := by
  cases items with
  | nil => simp [quotedItems]
  | cons item rest =>
    rw [quotedItems]
    exact List.forall_mem_cons.2 ⟨unbroken_quoted item, unbroken_quotedItems rest⟩

theorem unbroken_quotedFields (fields : List (String × Tree)) :
    ∀ part ∈ quotedFields fields, Unbroken part := by
  cases fields with
  | nil => simp [quotedFields]
  | cons field rest =>
    obtain ⟨name, value⟩ := field
    rw [quotedFields]
    refine List.forall_mem_cons.2 ⟨?_, unbroken_quotedFields rest⟩
    simp only [unbroken_append_iff]
    exact ⟨⟨Text.unbroken_quoted name, by decide⟩, unbroken_quoted value⟩

end

mutual

/-- No text in the tree has a line break in it. The names of fields do not matter: they are only ever shown
inside another value. -/
def isUnbroken : Tree → Bool
  | text value => decide (Unbroken value)
  | list items => itemsUnbroken items
  | element fields => fieldsUnbroken fields
  | _ => true

def itemsUnbroken : List Tree → Bool
  | [] => true
  | item :: rest => item.isUnbroken && itemsUnbroken rest

def fieldsUnbroken : List (String × Tree) → Bool
  | [] => true
  | (_, value) :: rest => value.isUnbroken && fieldsUnbroken rest

end

theorem itemsUnbroken_iff {items : List Tree} :
    itemsUnbroken items = true ↔ ∀ item ∈ items, item.isUnbroken = true := by
  induction items with
  | nil => simp [itemsUnbroken]
  | cons item rest ih => simp [itemsUnbroken, ih]

theorem isUnbroken_of_lookup {fields : List (String × Tree)} {name : String} {value : Tree}
    (whole : fieldsUnbroken fields = true) (h : fields.lookup name = some value) :
    value.isUnbroken = true := by
  induction fields with
  | nil => cases h
  | cons first rest ih =>
    obtain ⟨key, first⟩ := first
    rw [fieldsUnbroken, Bool.and_eq_true] at whole
    rw [List.lookup_cons] at h
    split at h
    · cases h
      exact whole.1
    · exact ih whole.2 h

section

variable {tree : Tree} (whole : tree.isUnbroken = true)
include whole

theorem isUnbroken_of_field? {name : String} {value : Tree} (h : tree.field? name = some value) :
    value.isUnbroken = true := by
  cases tree with
  | element fields =>
    rw [isUnbroken] at whole
    exact isUnbroken_of_lookup whole h
  | _ => cases h

theorem isUnbroken_of_head? {first : Tree} (h : tree.head? = .ok (some first)) : first.isUnbroken = true := by
  cases tree with
  | list items =>
    rw [isUnbroken] at whole
    exact itemsUnbroken_iff.1 whole first (List.mem_of_mem_head? (Except.ok.inj h))
  | text value =>
    obtain ⟨c, held, rfl⟩ := Option.map_eq_some_iff.1 (Except.ok.inj h)
    rw [isUnbroken, decide_eq_true_iff] at whole ⊢
    intro mem
    obtain rfl : '\n' = c := by simpa using mem
    exact whole (List.mem_of_mem_head? held)
  | element fields => cases fields <;> cases h
  | nothing => cases h
  | flag value => cases value <;> cases h
  | integer value =>
    rw [head?] at h
    split at h <;> cases h
  | decimal value =>
    rw [head?] at h
    split at h <;> cases h

theorem unbroken_written : Unbroken tree.written := by
  cases tree with
  | text value =>
    rw [isUnbroken, decide_eq_true_iff] at whole
    exact whole
  | _ => exact unbroken_quoted _

theorem isUnbroken_scalar : tree.scalar.isUnbroken = true := by
  cases tree with
  | text value =>
    change ((scalarOf? value).getD (text value)).isUnbroken = true
    cases found : scalarOf? value with
    | none => exact whole
    | some scalar =>
      unfold scalarOf? at found
      dsimp only at found
      repeat' split at found
      all_goals first | cases found; rfl | cases found
  | _ => exact whole

end

end Tree

namespace Schema

/-- No name that a literal takes from the structure has a line break in it: not its own, and in a class not
that of a property or of a type that a property refers to. -/
def Structure.isUnbroken : Structure → Bool
  | .classType name properties => decide (Unbroken name) && properties.entries.all fun property =>
      decide (Unbroken property.1) && property.2.reference?.all fun subType => decide (Unbroken subType)
  | .enumType name _ | .builtIn name => decide (Unbroken name)

def Registry.isUnbroken (registry : Registry) : Bool := registry.structures.all Structure.isUnbroken

section

variable {registry : Registry} (whole : registry.isUnbroken = true) {typeName name : String}
include whole

theorem unbroken_of_enumType {items : Table Int} (h : registry.lookup? typeName = some (.enumType name items)) :
    Unbroken name := by
  have unbroken := List.all_eq_true.1 whole _ (Registry.mem_structures_of_lookup? h)
  exact of_decide_eq_true unbroken

/-- The names of a property: its own, and that of the type that it refers to. -/
theorem unbroken_of_property {properties : Table PropertyKind} {property : String × PropertyKind}
    (h : registry.lookup? typeName = some (.classType name properties)) (declared : property ∈ properties.entries) :
    Unbroken property.1 ∧ ∀ subType, property.2.reference? = some subType → Unbroken subType := by
  have unbroken := List.all_eq_true.1 whole _ (Registry.mem_structures_of_lookup? h)
  rw [Structure.isUnbroken, Bool.and_eq_true, List.all_eq_true] at unbroken
  have names := unbroken.2 property declared
  rw [Bool.and_eq_true, Option.all_eq_true] at names
  obtain ⟨named, refers⟩ := names
  exact ⟨of_decide_eq_true named, fun subType reference => of_decide_eq_true (refers subType reference)⟩

end

end Schema

namespace Literal

open Schema

theorem unbroken_plain {tree : Tree} (whole : tree.isUnbroken = true) : Unbroken (plain tree) := by
  unfold plain
  split
  · split <;> decide
  · split
    · exact Number.unbroken_toString_int _
    · exact Number.unbroken_written _
  · exact Tree.unbroken_written whole

section

variable {text : String} (whole : Unbroken text)
include whole

theorem unbroken_quote : Unbroken (quote text) := by
  have escaped : Unbroken (escape text) := by
    rw [escape, unbroken_ofList_iff]
    intro mem
    obtain ⟨c, held, inside⟩ := List.mem_flatMap.1 mem
    unfold escapeChar at inside
    split at inside
    · simp at inside
    · obtain rfl := List.mem_singleton.1 inside
      exact whole held
  simp only [quote, unbroken_append_iff]
  exact ⟨⟨by decide, escaped⟩, by decide⟩

theorem unbroken_memberRef {enum : String} (named : Unbroken enum) : Unbroken (memberRef enum text) := by
  unfold memberRef
  split
  · simp only [unbroken_append_iff]
    exact ⟨⟨named, by decide⟩, whole⟩
  · simp only [unbroken_append_iff]
    exact ⟨⟨⟨named, by decide⟩, unbroken_quote whole⟩, by decide⟩

end

theorem mem_of_mem_dropFirst {part chars : List Char} {c : Char} (h : c ∈ dropFirst part chars) : c ∈ chars := by
  induction chars with
  | nil => exact h
  | cons first rest ih =>
    rw [dropFirst] at h
    split at h
    · exact List.mem_of_mem_drop h
    · rcases List.mem_cons.1 h with rfl | later
      · exact List.mem_cons_self
      · exact List.mem_cons_of_mem _ (ih later)

theorem unbroken_imagePath {source : Tree} (whole : source.isUnbroken = true) {path : String}
    (h : imagePath? source = some path) : Unbroken path := by
  unfold imagePath? at h
  split at h
  · cases h
  · rename_i mark rest held
    dsimp only at h
    split at h
    · cases h
    · cases h
      rw [unbroken_ofList_iff]
      intro mem
      have later : '\n' ∈ mark :: rest := List.mem_cons_of_mem _ (mem_of_mem_dropFirst mem)
      exact unbroken_plain whole ((List.dropWhile_sublist _).mem (held ▸ later))

theorem unbroken_declaredType {subType : String} (whole : Unbroken subType) : Unbroken (declaredType subType) := by
  have aliases : ∀ entry ∈ typeAliases, Unbroken entry.2 := by decide
  unfold declaredType
  cases found : typeAliases.lookup subType with
  | none => exact whole
  | some declared =>
    obtain ⟨before, after, held, -⟩ := List.lookup_eq_some_iff.1 found
    exact aliases (subType, declared) (by simp [held])

theorem Encoder.unbroken_placeholder (encoder : Encoder) {subType : String} (whole : Unbroken subType) :
    Unbroken (encoder.placeholder subType) := by
  have declared := unbroken_declaredType whole
  have referenced : Unbroken (TypesModule.referencedType encoder.registry subType) := by
    unfold TypesModule.referencedType TypesModule.namedType? TypesModule.resolvedType?
    split
    · rw [Option.filter_some]
      split
      · rw [Option.getD_some]
        exact declared
      · decide
    · decide
  unfold placeholder
  exact unbroken_append_iff.2 ⟨by decide, referenced⟩

section

variable {tree : Tree} (whole : tree.isUnbroken = true)
include whole

theorem isUnbroken_of_firstValue? {name : String} {value : Tree}
    (h : firstValue? (tree.field? name) = .ok (some value)) : value.isUnbroken = true := by
  unfold firstValue? at h
  cases field : tree.field? name with
  | none => rw [field] at h; cases h
  | some values =>
    rw [field] at h
    exact Tree.isUnbroken_of_head? (Tree.isUnbroken_of_field? whole field) h

theorem isUnbroken_of_firstChild? {tag : String} {child : Tree} (h : firstChild? tree tag = .ok (some child)) :
    child.isUnbroken = true := by
  unfold firstChild? at h
  split at h
  · cases h
  · exact isUnbroken_of_firstValue? whole h

theorem isUnbroken_of_wrapped? {wrapper : String} {find : Tree → Except Misfit α} {first : Tree} {found : α}
    (h : wrapped? tree wrapper find = .ok (some (first, found))) :
    first.isUnbroken = true ∧ find first = .ok found := by
  refine ⟨?_, (wrapped?_eq_some h).1⟩
  unfold wrapped? at h
  split at h
  · cases h
  · cases h
  · rename_i value held
    have inside := isUnbroken_of_firstValue? whole held
    cases result : find value with
    | error misfit => rw [result] at h; cases h
    | ok result' =>
      rw [result] at h
      cases h
      exact inside

/-- The first child in the first wrapper. -/
theorem isUnbroken_of_child {wrapper tag : String} {child : Tree}
    (h : (wrapped? tree wrapper (firstChild? · tag)).map (fun found => found.bind (·.2)) = .ok (some child)) :
    child.isUnbroken = true := by
  cases found : wrapped? tree wrapper (firstChild? · tag) with
  | error misfit => rw [found] at h; cases h
  | ok found? =>
    rw [found] at h
    obtain ⟨⟨first, child?⟩, rfl, inside⟩ := Option.bind_eq_some_iff.1 (Except.ok.inj h)
    obtain rfl : child? = some child := inside
    obtain ⟨unbroken, looked⟩ := isUnbroken_of_wrapped? whole found
    exact isUnbroken_of_firstChild? unbroken looked

theorem isUnbroken_of_mem_listedChildren {tag : String} {child : Tree} (h : child ∈ listedChildren tree tag) :
    child.isUnbroken = true := by
  unfold listedChildren at h
  split at h
  · rename_i items field
    have listed := Tree.isUnbroken_of_field? whole field
    rw [Tree.isUnbroken] at listed
    exact Tree.itemsUnbroken_iff.1 listed child h
  · cases h

end

end Literal

end ViewModel
