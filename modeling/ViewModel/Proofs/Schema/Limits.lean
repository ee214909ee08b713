import Mathlib.Data.List.Nodup
import Mathlib.Data.String.Basic
import ViewModel.Proofs.Tree.Textual
import ViewModel.Schema.Validated

/-!
# Kinds made of fields

A kind with constraints is made of the fields of an element, all of which are checked together. It can be made
if every field can be read, and then it holds what they are read as; otherwise each field that cannot be read
is told of, in a place of its own.

* `checks_ofFields`: when a kind can be made, and which fields are at fault if it cannot;
* `ofFields_eq_ok`: what a kind is made of;
* `eq_of_limits`: a kind is nothing but its tag and its limits.
-/

namespace ViewModel.Schema

open Validation

/-- A value that a constraint is read as. -/
inductive Limit
  | whole (n : Int)
  | real (x : Float)

/-- A field of a kind that holds a constraint: its name, the attribute that gives it, and how that is read. -/
structure ConstraintField where
  name : String
  source : String
  read : Tree → Except Cause Limit

namespace ConstraintField

def whole (name source : String) : ConstraintField :=
  ⟨name, source, fun value => (Validation.integer value).map .whole⟩

def real (name source : String) : ConstraintField :=
  ⟨name, source, fun value => (Validation.number value).map .real⟩

end ConstraintField

def constraintFields : KindTag → List ConstraintField
  | .string => [.whole "max_words" "StringMaxWordCount", .whole "min_words" "StringMinWordCount"]
  | .number =>
    [.whole "decimal_count" "NumberDecimalCount", .real "max_value" "NumberMaxValue",
      .real "min_value" "NumberMinValue"]
  | _ => []

def PropertyKind.limit? : PropertyKind → String → Option Limit
  | .string low _, "min_words" => low.map .whole
  | .string _ high, "max_words" => high.map .whole
  | .number low _ _, "min_value" => low.map .real
  | .number _ high _, "max_value" => high.map .real
  | .number _ _ count, "decimal_count" => count.map .whole
  | _, _ => none

/-- The names of the fields that issues are located at. -/
def locatedAt (issues : List Issue) : List String := issues.filterMap (·.path.getLast?)

theorem increasing_constraintFields (type : KindTag) :
    ((constraintFields type).map (·.name)).Pairwise (· < ·) := by
  cases type <;> decide

theorem eq_of_name_eq {type : KindTag} {field other : ConstraintField} (mem : field ∈ constraintFields type)
    (mem' : other ∈ constraintFields type) (same : field.name = other.name) : field = other :=
  List.inj_on_of_nodup_map ((increasing_constraintFields type).imp ne_of_lt) mem mem' same

/-- What a field of an element is read as, where nothing stands for none. -/
def ConstraintField.held (field : ConstraintField) (fields : Tree) : Except Cause (Option Limit) :=
  match fields.field? field.name with
  | none => .ok none
  | some value => orNone field.read value

def issuesOf : Except (List Issue) α → List Issue
  | .ok _ => []
  | .error issues => issues

theorem both_eq_ok {make : α → β → γ} {left : Except (List Issue) α} {right : Except (List Issue) β}
    {result : γ} (h : both make left right = .ok result) :
    ∃ a b, left = .ok a ∧ right = .ok b ∧ make a b = result := by
  cases left <;> cases right <;> cases h
  exact ⟨_, _, rfl, rfl, rfl⟩

theorem single_eq_ok {reading : Except Issue α} {result : α} (h : single reading = .ok result) :
    reading = .ok result := by
  cases reading <;> cases h
  rfl

theorem issuesOf_both (make : α → β → γ) (left : Except (List Issue) α) (right : Except (List Issue) β) :
    issuesOf (both make left right) = issuesOf left ++ issuesOf right := by
  cases left <;> cases right <;> simp [both, issuesOf]

namespace ConstraintField

/-- The reading of a field of an element, whose value is a limit. -/
def Reads (field : ConstraintField) (path : List String) (fields : Tree) (limit : α → Limit)
    (reading : Except Issue (Option α)) : Prop :=
  reading.map (·.map limit) = (field.held fields).mapError fun cause => ⟨path ++ [field.name], cause⟩

section

variable (path : List String) (fields : Tree)

theorem reads_fieldOr (name source : String) (read : Tree → Except Cause α) (limit : α → Limit) :
    Reads ⟨name, source, fun value => (read value).map limit⟩ path fields limit
      (fieldOr fields path name none (orNone read)) := by
  unfold Reads held fieldOr
  cases fields.field? name with
  | none => rfl
  | some value =>
    dsimp only
    cases value with
    | nothing => rfl
    | _ =>
      unfold orNone
      dsimp only
      cases read _ <;> rfl

theorem reads_whole (name source : String) :
    (whole name source).Reads path fields .whole (fieldOr fields path name none (orNone Validation.integer)) :=
  reads_fieldOr path fields name source _ _

theorem reads_real (name source : String) :
    (real name source).Reads path fields .real (fieldOr fields path name none (orNone Validation.number)) :=
  reads_fieldOr path fields name source _ _

end

theorem Reads.held_of_ok {field : ConstraintField} {path : List String} {fields : Tree} {limit : α → Limit}
    {reading : Except Issue (Option α)} (reads : field.Reads path fields limit reading) {value : Option α}
    (h : reading = .ok value) : field.held fields = .ok (value.map limit) := by
  subst h
  unfold Reads at reads
  cases held : field.held fields with
  | error cause => rw [held] at reads; cases reads
  | ok result => rw [held] at reads; cases reads; rfl

end ConstraintField

/-- A result that depends on some fields of an element: it is there if they can all be read, and otherwise its
issues are located at those that cannot. -/
structure Checks (fields : Tree) (checked : List ConstraintField) (result : Except (List Issue) α) : Prop where
  made : (∀ field ∈ checked, ∃ limit, field.held fields = .ok limit) → ∃ value, result = .ok value
  located : (locatedAt (issuesOf result)).Perm
    ((checked.filter fun field => (field.held fields).toOption.isNone).map (·.name))

namespace Checks

variable {fields : Tree}

theorem single {field : ConstraintField} {path : List String} {limit : α → Limit}
    {reading : Except Issue (Option α)} (reads : field.Reads path fields limit reading) :
    Checks fields [field] (Validation.single reading) := by
  unfold ConstraintField.Reads at reads
  cases held : field.held fields with
  | error cause =>
    rw [held] at reads
    cases reading with
    | ok value => cases reads
    | error issue =>
      cases reads
      constructor
      · intro h
        obtain ⟨_, ended⟩ := List.forall_mem_singleton.1 h
        rw [held] at ended
        cases ended
      · simp [Validation.single, Except.mapError, issuesOf, locatedAt, held, Except.toOption]
  | ok result =>
    rw [held] at reads
    cases reading with
    | error issue => cases reads
    | ok value =>
      constructor
      · exact fun _ => ⟨value, rfl⟩
      · simp [Validation.single, Except.mapError, issuesOf, locatedAt, held, Except.toOption]

theorem both {first second : List ConstraintField} {make : α → β → γ} {left : Except (List Issue) α}
    {right : Except (List Issue) β} (h : Checks fields first left) (h' : Checks fields second right) :
    Checks fields (first ++ second) (Validation.both make left right) := by
  constructor
  · intro readable
    obtain ⟨readable, readable'⟩ := List.forall_mem_append.1 readable
    obtain ⟨_, rfl⟩ := h.made readable
    obtain ⟨_, rfl⟩ := h'.made readable'
    exact ⟨_, rfl⟩
  · rw [issuesOf_both, locatedAt, List.filterMap_append, List.filter_append, List.map_append]
    exact h.located.append h'.located

theorem of_perm {checked other : List ConstraintField} {result : Except (List Issue) α}
    (h : Checks fields checked result) (same : checked.Perm other) : Checks fields other result :=
  ⟨fun readable => h.made fun field mem => readable field (same.mem_iff.1 mem),
    h.located.trans ((same.filter _).map _)⟩

end Checks

section

variable {type : KindTag} (constrained : type = .string ∨ type = .number) (path : List String) (fields : Tree)
include constrained

/-- A kind depends on its constraint fields. -/
theorem checks_ofFields : Checks fields (constraintFields type) (PropertyKind.ofFields type path fields) := by
  -- Fields are read in order of the kind's parts, not of their names.
  rcases constrained with rfl | rfl
  · have low := ConstraintField.reads_whole (path ++ ["String"]) fields "min_words" "StringMinWordCount"
    have high := ConstraintField.reads_whole (path ++ ["String"]) fields "max_words" "StringMaxWordCount"
    exact ((Checks.single low).both (Checks.single high)).of_perm (List.Perm.swap _ _ _)
  · have low := ConstraintField.reads_real (path ++ ["Number"]) fields "min_value" "NumberMinValue"
    have high := ConstraintField.reads_real (path ++ ["Number"]) fields "max_value" "NumberMaxValue"
    have count := ConstraintField.reads_whole (path ++ ["Number"]) fields "decimal_count" "NumberDecimalCount"
    exact (((Checks.single low).both (Checks.single high)).both (Checks.single count)).of_perm
      (List.reverse_perm _).symm

/-- A kind that is made holds each limit that its field is read as. -/
theorem ofFields_eq_ok {kind : PropertyKind} (h : PropertyKind.ofFields type path fields = .ok kind) :
    kind.tag = type ∧ ∀ field ∈ constraintFields type, field.held fields = .ok (kind.limit? field.name) := by
  rcases constrained with rfl | rfl
  · obtain ⟨low, high, first, second, rfl⟩ := both_eq_ok h
    refine ⟨rfl, List.forall_mem_cons.2 ⟨?_, List.forall_mem_singleton.2 ?_⟩⟩
    · exact (ConstraintField.reads_whole _ fields _ _).held_of_ok (single_eq_ok second)
    · exact (ConstraintField.reads_whole _ fields _ _).held_of_ok (single_eq_ok first)
  · obtain ⟨⟨low, high⟩, count, ends, third, rfl⟩ := both_eq_ok h
    obtain ⟨_, _, first, second, same⟩ := both_eq_ok ends
    cases same
    refine ⟨rfl, List.forall_mem_cons.2 ⟨?_, List.forall_mem_cons.2 ⟨?_, List.forall_mem_singleton.2 ?_⟩⟩⟩
    · exact (ConstraintField.reads_whole _ fields _ _).held_of_ok (single_eq_ok third)
    · exact (ConstraintField.reads_real _ fields _ _).held_of_ok (single_eq_ok second)
    · exact (ConstraintField.reads_real _ fields _ _).held_of_ok (single_eq_ok first)

end

/-- A kind is known by its tag and its limits. -/
theorem eq_of_limits {type : KindTag} (constrained : type = .string ∨ type = .number) {kind other : PropertyKind}
    (tagged : kind.tag = type) (tagged' : other.tag = type)
    (same : ∀ field ∈ constraintFields type, kind.limit? field.name = other.limit? field.name) : kind = other := by
  have whole : Function.Injective Limit.whole := fun _ _ => Limit.whole.inj
  have real : Function.Injective Limit.real := fun _ _ => Limit.real.inj
  rcases constrained with rfl | rfl
  · cases kind <;> cases tagged
    cases other <;> cases tagged'
    obtain ⟨high, later⟩ := List.forall_mem_cons.1 same
    obtain low := List.forall_mem_singleton.1 later
    rw [Option.map_injective whole low, Option.map_injective whole high]
  · cases kind <;> cases tagged
    cases other <;> cases tagged'
    obtain ⟨count, later⟩ := List.forall_mem_cons.1 same
    obtain ⟨high, last⟩ := List.forall_mem_cons.1 later
    obtain low := List.forall_mem_singleton.1 last
    rw [Option.map_injective real low, Option.map_injective real high, Option.map_injective whole count]

end ViewModel.Schema
