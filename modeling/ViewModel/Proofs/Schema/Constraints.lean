import Mathlib.Data.Finset.Sort
import ViewModel.Proofs.Schema.Limits
import ViewModel.Proofs.Schema.Members
import ViewModel.Proofs.Tree.Normal

/-!
# Constraints, field by field

The constraints of texts and numbers are read together: a kind is made of all of them, and if that fails, made
once more without those that are at fault. Each field of the kind still depends on its own attribute alone, and
each attribute at fault is warned of once, in order of the fields.

* `located_constraintValues`: the first try fails at the fields that are invalid on their own;
* `held_cleared`: without those, every field is read as it is on its own;
* `buildConstrained_eq`: so making a kind in two tries reads every field on its own;
* `classify_fields`: and so does the classification of a declaration;
* `classify_constrained`: the two agree.
-/

namespace ViewModel.Schema

open Validation Attempt

/-- The attribute of a declaration, unless it is empty. -/
def attribute? (decl : Tree) (name : String) : Option Tree := (decl.first? name).filter isGiven

namespace ConstraintField

/-- What a declaration gives for the field. -/
def value? (field : ConstraintField) (decl : Tree) : Option Tree := attribute? decl field.source

/-- The value that the field is read as, on its own. -/
def limit? (field : ConstraintField) (decl : Tree) : Option Limit :=
  (field.value? decl).bind fun value => (field.read value).toOption

/-- What is given for the field is no value of it. -/
def isInvalid (field : ConstraintField) (decl : Tree) : Bool :=
  (field.value? decl).any fun value => (field.read value).toOption.isNone

end ConstraintField

def ignored (property : Option Tree) (name : String) (value : Tree) : Record :=
  ⟨.warning, schemaLogger,
    "Ignoring invalid " ++ name ++ " value " ++ value.quoted ++ " of property " ++ shown property⟩

def ConstraintField.warning (field : ConstraintField) (decl : Tree) : Record :=
  ignored (attribute? decl "Name") field.name ((field.value? decl).getD .nothing)

/-- What a kind is made of: the given values under the names of their fields, and nothing for the others. -/
def constraintValues (type : KindTag) (decl : Tree) : List (String × Tree) :=
  (constraintFields type).map fun field => (field.name, (field.value? decl).getD .nothing)

/-- The kind that is made of some values, or else of those that are not at fault, with a warning for each of the
others in order of their names. -/
def buildConstrained (type : KindTag) (property : Option Tree) (values : List (String × Tree)) :
    Logged (Except (List Issue) PropertyKind) :=
  match PropertyKind.ofFields type [] (.element values) with
  | .ok kind => pure (.ok kind)
  | .error issues =>
    let invalid := (locatedAt issues).toFinset
    let cleared := values.map fun (name, value) => (name, if name ∈ invalid then .nothing else value)
    ⟨PropertyKind.ofFields type [] (.element cleared),
      (invalid.sort (· ≤ ·)).map fun name => ignored property name ((values.lookup name).getD .nothing)⟩

theorem increasing_invalid (type : KindTag) (decl : Tree) :
    (((constraintFields type).filter (·.isInvalid decl)).map (·.name)).Pairwise (· < ·) :=
  (increasing_constraintFields type).sublist (List.filter_sublist.map _)

theorem lookup_map_of_nodup {items : List α} {key : α → String} (distinct : (items.map key).Nodup)
    (value : α → β) {item : α} (mem : item ∈ items) :
    (items.map fun item => (key item, value item)).lookup (key item) = some (value item) := by
  induction items with
  | nil => cases mem
  | cons first rest ih =>
    obtain ⟨absent, distinct⟩ := List.nodup_cons.1 distinct
    rw [List.map_cons, List.lookup_cons]
    rcases List.mem_cons.1 mem with rfl | mem
    · rw [beq_self_eq_true]
    · have apart : (key item == key first) = false :=
        beq_false_of_ne fun same => absent (same ▸ List.mem_map_of_mem mem)
      rw [apart]
      exact ih distinct mem

/-- What is given for a field is read as its limit, unless it is invalid. -/
theorem toOption_orNone (field : ConstraintField) (decl : Tree) :
    (orNone field.read ((field.value? decl).getD .nothing)).toOption =
      if field.isInvalid decl then none else some (field.limit? decl) := by
  unfold ConstraintField.isInvalid ConstraintField.limit?
  cases found : field.value? decl with
  | none => rfl
  | some value =>
    have given : isGiven value = true := (Option.filter_eq_some_iff.1 found).2
    have read : orNone field.read value = (field.read value).map some := by
      cases value with
      | nothing => cases given
      | _ => rfl
    rw [Option.getD_some, read, Option.any_some, Option.bind_some]
    cases field.read value <;> rfl

theorem limit?_of_isInvalid {field : ConstraintField} {decl : Tree} (invalid : field.isInvalid decl = true) :
    field.limit? decl = none := by
  unfold ConstraintField.isInvalid at invalid
  unfold ConstraintField.limit?
  cases found : field.value? decl with
  | none => rfl
  | some value =>
    rw [found, Option.any_some, Option.isNone_iff_eq_none] at invalid
    exact invalid

section

variable {type : KindTag} {field : ConstraintField} (mem : field ∈ constraintFields type)
include mem

theorem lookup_constraintFields (value : ConstraintField → Tree) :
    ((constraintFields type).map fun field => (field.name, value field)).lookup field.name = some (value field) :=
  lookup_map_of_nodup ((increasing_constraintFields type).imp ne_of_lt) value mem

theorem lookup_constraintValues (decl : Tree) :
    (constraintValues type decl).lookup field.name = some ((field.value? decl).getD .nothing) :=
  lookup_constraintFields mem _

theorem held_constraintFields (value : ConstraintField → Tree) :
    field.held (.element ((constraintFields type).map fun field => (field.name, value field))) =
      orNone field.read (value field) := by
  unfold ConstraintField.held Tree.field? Tree.fields
  rw [lookup_constraintFields mem]

/-- Among the given values a field cannot be read if what is given for it is invalid. -/
theorem toOption_held (decl : Tree) : (field.held (.element (constraintValues type decl))).toOption =
    if field.isInvalid decl then none else some (field.limit? decl) := by
  rw [constraintValues, held_constraintFields mem, toOption_orNone]

/-- Among the values that are not at fault every field is read as it is on its own. -/
theorem held_cleared (decl : Tree) :
    field.held (.element ((constraintFields type).map fun field =>
      (field.name, if field.isInvalid decl then .nothing else (field.value? decl).getD .nothing))) =
        .ok (field.limit? decl) := by
  rw [held_constraintFields mem]
  cases invalid : field.isInvalid decl with
  | true =>
    rw [if_pos rfl, limit?_of_isInvalid invalid]
    rfl
  | false =>
    have read := toOption_orNone field decl
    rw [invalid, if_neg Bool.false_ne_true] at read
    rw [if_neg Bool.false_ne_true]
    cases reading : orNone field.read ((field.value? decl).getD .nothing) with
    | error cause => rw [reading] at read; cases read
    | ok limit => rw [reading] at read; cases read; rfl

end

section

variable {type : KindTag} {decl : Tree} {issues : List Issue}
  (located : (locatedAt issues).Perm (((constraintFields type).filter (·.isInvalid decl)).map (·.name)))
include located

/-- The fields at fault, in order of their names. -/
theorem sort_locatedAt : (locatedAt issues).toFinset.sort (· ≤ ·) =
    ((constraintFields type).filter (·.isInvalid decl)).map (·.name) := by
  have increasing := increasing_invalid type decl
  rw [List.toFinset_eq_of_perm _ _ located]
  exact (List.toFinset_sort _ (increasing.imp ne_of_lt)).2 (increasing.imp le_of_lt)

theorem mem_locatedAt_iff {field : ConstraintField} (mem : field ∈ constraintFields type) :
    field.name ∈ locatedAt issues ↔ field.isInvalid decl = true := by
  rw [located.mem_iff, List.mem_map]
  constructor
  · rintro ⟨other, held, same⟩
    obtain ⟨mem', invalid⟩ := List.mem_filter.1 held
    rwa [← eq_of_name_eq mem' mem same]
  · exact fun invalid => ⟨field, List.mem_filter.2 ⟨mem, invalid⟩, rfl⟩

/-- What is left once the fields at fault are cleared. -/
theorem cleared_constraintValues :
    ((constraintValues type decl).map fun (name, value) =>
      (name, if name ∈ (locatedAt issues).toFinset then .nothing else value)) =
        (constraintFields type).map fun field =>
          (field.name, if field.isInvalid decl then .nothing else (field.value? decl).getD .nothing) := by
  rw [constraintValues, List.map_map]
  refine List.map_congr_left fun field mem => ?_
  simp only [Function.comp_apply, List.mem_toFinset, mem_locatedAt_iff located mem]

end

section

variable {type : KindTag} (constrained : type = .string ∨ type = .number) (decl : Tree)
include constrained

/-- The issues of the given values are located at the fields that are invalid. -/
theorem located_constraintValues :
    (locatedAt (issuesOf (PropertyKind.ofFields type [] (.element (constraintValues type decl))))).Perm
      (((constraintFields type).filter (·.isInvalid decl)).map (·.name)) := by
  have located := (checks_ofFields constrained [] (.element (constraintValues type decl))).located
  have same : (constraintFields type).filter (fun field =>
      (field.held (.element (constraintValues type decl))).toOption.isNone) =
        (constraintFields type).filter (·.isInvalid decl) := by
    refine List.filter_congr fun field mem => ?_
    rw [toOption_held mem]
    cases field.isInvalid decl <;> rfl
  rwa [same] at located

/-- Making a kind in two tries reads every field on its own, and warns of those that are invalid. -/
theorem buildConstrained_eq :
    ∃ kind, buildConstrained type (attribute? decl "Name") (constraintValues type decl) =
        ⟨.ok kind, ((constraintFields type).filter (·.isInvalid decl)).map (·.warning decl)⟩ ∧
      kind.tag = type ∧ ∀ field ∈ constraintFields type, kind.limit? field.name = field.limit? decl := by
  have located := located_constraintValues constrained decl
  unfold buildConstrained
  cases made : PropertyKind.ofFields type [] (.element (constraintValues type decl)) with
  | ok kind =>
    obtain ⟨tag, held⟩ := ofFields_eq_ok constrained _ _ made
    have valid : (constraintFields type).filter (·.isInvalid decl) = [] := by
      rw [made] at located
      exact List.map_eq_nil_iff.1 located.nil_eq.symm
    refine ⟨kind, ?_, tag, ?_⟩
    · rw [valid]
      rfl
    · intro field mem
      have read := toOption_held mem decl
      have sound : field.isInvalid decl = false := by simpa using List.filter_eq_nil_iff.1 valid field mem
      rw [held field mem, sound, if_neg Bool.false_ne_true] at read
      exact Option.some.inj read
  | error issues =>
    rw [made] at located
    change (locatedAt issues).Perm _ at located
    -- What was at fault is gone now, so every field can be read and the second try cannot fail.
    obtain ⟨kind, remade⟩ := (checks_ofFields constrained [] _).made fun field mem => ⟨_, held_cleared mem decl⟩
    obtain ⟨tag, held⟩ := ofFields_eq_ok constrained _ _ remade
    refine ⟨kind, ?_, tag, fun field mem => Except.ok.inj ((held field mem).symm.trans (held_cleared mem decl))⟩
    dsimp only
    rw [cleared_constraintValues located, remade, sort_locatedAt located, List.map_map]
    refine congrArg (Logged.mk _) (List.map_congr_left fun field held => ?_)
    rw [Function.comp_apply, lookup_constraintValues (List.mem_filter.1 held).1]
    rfl

end

/-- A constraint is read on its own, and warned of if it is invalid. -/
theorem constraint_eq (property : Option Tree) (name : String) (read : Tree → Except Cause α) (value : Option Tree) :
    constraint property name read value =
      ⟨value.bind fun value => (read value).toOption,
        if value.any fun value => (read value).toOption.isNone then [ignored property name (value.getD .nothing)]
        else []⟩ := by
  cases value with
  | none => rfl
  | some value =>
    unfold constraint
    rw [Option.bind_some, Option.any_some, Option.getD_some]
    dsimp only
    cases read value <;> rfl

theorem toOption_map (result : Except ε α) (change : α → β) :
    (result.map change).toOption = result.toOption.map change := by
  cases result <;> rfl

section

variable (decl : Tree) (name source : String) (read : Tree → Except Cause α) (limit : α → Limit)

theorem value_constraint :
    (constraint (attribute? decl "Name") name read (attribute? decl source)).value.map limit =
      ConstraintField.limit? ⟨name, source, fun value => (read value).map limit⟩ decl := by
  rw [constraint_eq, ConstraintField.limit?, Option.map_bind]
  simp only [toOption_map]
  rfl

theorem records_constraint :
    (constraint (attribute? decl "Name") name read (attribute? decl source)).records =
      (([⟨name, source, fun value => (read value).map limit⟩] : List ConstraintField).filter
        (·.isInvalid decl)).map (·.warning decl) := by
  rw [constraint_eq, List.filter_cons, ConstraintField.isInvalid]
  simp only [toOption_map, Option.isNone_map]
  change (if (attribute? decl source).any _ then _ else _) =
    List.map _ (if (attribute? decl source).any _ then _ else _)
  split <;> rfl

end

section

variable {decl : Tree} (normal : decl.isNormal = true)
include normal

theorem declaredField_of_normal (name : String) : declaredField decl name = pure (attribute? decl name) := by
  have first : firstOf decl name = .ok (decl.first? name) := Tree.head?_of_normal normal name
  rw [declaredField, declared?_eq, first]
  rfl

theorem classify_string (typed : attribute? decl "Type" = some (.text "String")) :
    classify decl = (do
      let name := attribute? decl "Name"
      let high ← constraint name "max_words" Validation.integer (attribute? decl "StringMaxWordCount")
      let low ← constraint name "min_words" Validation.integer (attribute? decl "StringMinWordCount")
      return .string low high) := by
  unfold classify
  simp only [declaredField_of_normal normal, typed, pure_bind]

theorem classify_number (typed : attribute? decl "Type" = some (.text "Number")) :
    classify decl = (do
      let name := attribute? decl "Name"
      let count ← constraint name "decimal_count" Validation.integer (attribute? decl "NumberDecimalCount")
      let high ← constraint name "max_value" Validation.number (attribute? decl "NumberMaxValue")
      let low ← constraint name "min_value" Validation.number (attribute? decl "NumberMinValue")
      return .number low high count) := by
  unfold classify
  simp only [declaredField_of_normal normal, typed, pure_bind]

/-- A constrained declaration has a kind that holds each limit that is given, and warns of what is invalid. -/
theorem classify_fields {type : KindTag} (constrained : type = .string ∨ type = .number)
    (typed : attribute? decl "Type" = some (.text type.name)) :
    ∃ kind, (classify decl).outcome = .ok kind ∧ kind.tag = type ∧
      (∀ field ∈ constraintFields type, kind.limit? field.name = field.limit? decl) ∧
      (classify decl).records = ((constraintFields type).filter (·.isInvalid decl)).map (·.warning decl) := by
  -- The fields are gone through in order of their names, so the warnings of each are put together as they come.
  rcases constrained with rfl | rfl
  · rw [classify_string normal typed]
    refine ⟨_, rfl, rfl, ?_, ?_⟩
    · refine List.forall_mem_cons.2 ⟨?_, List.forall_mem_singleton.2 ?_⟩
      · exact value_constraint decl "max_words" "StringMaxWordCount" Validation.integer .whole
      · exact value_constraint decl "min_words" "StringMinWordCount" Validation.integer .whole
    · dsimp only
      rw [records_liftM_bind, records_liftM_bind, records_pure, List.append_nil,
        records_constraint decl "max_words" "StringMaxWordCount" Validation.integer .whole,
        records_constraint decl "min_words" "StringMinWordCount" Validation.integer .whole,
        ← List.map_append, ← List.filter_append]
      rfl
  · rw [classify_number normal typed]
    refine ⟨_, rfl, rfl, ?_, ?_⟩
    · refine List.forall_mem_cons.2 ⟨?_, List.forall_mem_cons.2 ⟨?_, List.forall_mem_singleton.2 ?_⟩⟩
      · exact value_constraint decl "decimal_count" "NumberDecimalCount" Validation.integer .whole
      · exact value_constraint decl "max_value" "NumberMaxValue" Validation.number .real
      · exact value_constraint decl "min_value" "NumberMinValue" Validation.number .real
    · dsimp only
      rw [records_liftM_bind, records_liftM_bind, records_liftM_bind, records_pure, List.append_nil,
        records_constraint decl "decimal_count" "NumberDecimalCount" Validation.integer .whole,
        records_constraint decl "max_value" "NumberMaxValue" Validation.number .real,
        records_constraint decl "min_value" "NumberMinValue" Validation.number .real,
        ← List.map_append, ← List.filter_append, ← List.map_append, ← List.filter_append]
      rfl

end

/-- A text whose least number of words is no number. -/
def titleDeclaration : Tree :=
  .element [("Name", .list [.text "Title"]), ("Type", .list [.text "String"]),
    ("StringMinWordCount", .list [.text "two"]), ("StringMaxWordCount", .list [.text " 5"])]

/-- A number with an empty maximum, whose minimum is an element and whose count of decimals is a fraction. -/
def scoreDeclaration : Tree :=
  .element [("Name", .list [.text "Score"]), ("Type", .list [.text "Number"]),
    ("NumberMinValue", .list [.element []]), ("NumberMaxValue", .list [.text ""]),
    ("NumberDecimalCount", .list [.text "1.5"])]

end ViewModel.Schema
