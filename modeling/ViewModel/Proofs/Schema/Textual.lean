import ViewModel.Proofs.Schema.Contribution
import ViewModel.Proofs.Tree.Textual

/-!
# Loading textual declarations

In a textual declaration every field that is looked at is absent or holds a list, so nothing in it is a
misfit: a member of it loads or is rejected, and a source of it contributes or does not.

* `classify_of_textual`: a declaration is classified or rejected;
* `contribution_of_textual`: a source contributes a structure or nothing;
* `load_of_textual`: textual sources always load.
-/

namespace ViewModel.Schema

section

variable {tree : Tree} (textual : tree.isTextual = true)
include textual

theorem declared?_of_textual (name : String) :
    declared? tree name = .ok ((tree.first? name).filter isGiven) := by
  have first : firstOf tree name = .ok (tree.first? name) := Tree.head?_of_textual textual name
  rw [declared?_eq, first]
  rfl

theorem childrenOf_of_textual (tag : String) : childrenOf tree tag = .ok (tree.under tag) := by
  unfold childrenOf
  rcases Tree.field?_of_textual textual tag with ⟨absent, empty⟩ | field
  · rw [absent, empty]
  · rw [field]
    rfl

end

/-- The attempt does not fail for a field that has no first value. -/
def Fits (attempt : Attempt ClassifyError α) : Prop :=
  ∀ misfit, attempt.outcome ≠ .error (.misfit misfit)

namespace Fits

theorem of_outcome {attempt : Attempt ClassifyError α} {value : α} (h : attempt.outcome = .ok value) :
    Fits attempt := by
  intro misfit failed
  rw [h] at failed
  cases failed

theorem pure (value : α) : Fits (Pure.pure value) := of_outcome rfl

theorem bind {first : Attempt ClassifyError α} {next : α → Attempt ClassifyError β} (h : Fits first)
    (h' : ∀ value, Fits (next value)) : Fits (first >>= next) := by
  intro misfit failed
  rw [Attempt.outcome_bind] at failed
  cases ended : first.outcome with
  | ok value =>
    rw [ended] at failed
    exact h' value misfit failed
  | error error =>
    rw [ended] at failed
    cases failed
    exact h misfit ended

end Fits

section

variable {decl : Tree} (textual : decl.isTextual = true)
include textual

theorem fits_declaredField (name : String) : Fits (declaredField decl name) := by
  unfold declaredField
  rw [declared?_of_textual textual]
  exact Fits.pure _

theorem fits_subTypeOf (type : String) : Fits (Attempt.ofExcept (subTypeOf decl type)) := by
  unfold subTypeOf
  rw [declared?_of_textual textual]
  cases (decl.first? "SubType").filter isGiven with
  | none => exact fun misfit failed => nomatch failed
  | some value => exact Fits.pure _

omit textual in
theorem fits_constraint (property : Option Tree) (field : String)
    (read : Tree → Except Validation.Cause α) (value : Option Tree) :
    Fits (ExceptT.lift (constraint property field read value)) :=
  Fits.of_outcome (Attempt.outcome_lift _)

/-- A textual declaration is classified or rejected, and never a misfit. -/
theorem classify_of_textual : Fits (classify decl) := by
  have field := fits_declaredField textual
  have subType := fits_subTypeOf textual
  unfold classify
  refine Fits.bind (field "Type") fun type => ?_
  dsimp only
  split
  · refine Fits.bind (subType "Object") fun found => ?_
    split
    · exact Fits.pure _
    · exact Fits.bind (field _) fun path => Fits.pure _
    · exact Fits.pure _
    · exact Fits.pure _
  · exact Fits.bind (subType "Enum") fun found => Fits.pure _
  · exact Fits.bind (subType "Collection") fun found => Fits.pure _
  · refine Fits.bind (field _) fun name => Fits.bind (field _) fun low => Fits.bind (field _) fun high => ?_
    refine Fits.bind (fits_constraint _ _ _ _) fun high => Fits.bind (fits_constraint _ _ _ _) fun low => ?_
    exact Fits.pure _
  · refine Fits.bind (field _) fun name => Fits.bind (field _) fun low => ?_
    refine Fits.bind (field _) fun high => Fits.bind (field _) fun count => ?_
    refine Fits.bind (fits_constraint _ _ _ _) fun count => Fits.bind (fits_constraint _ _ _ _) fun high => ?_
    exact Fits.bind (fits_constraint _ _ _ _) fun low => Fits.pure _
  · exact Fits.pure _
  · exact Fits.pure _
  · intro misfit failed
    cases failed

theorem propertyOf_of_textual : ∃ property?, propertyOf decl = .ok property? := by
  unfold propertyOf
  rw [declared?_of_textual textual]
  cases (decl.first? "Name").filter isGiven with
  | none => exact ⟨none, rfl⟩
  | some name =>
    cases classified : (classify decl).outcome with
    | ok kind => exact ⟨_, rfl⟩
    | error error =>
      cases error with
      | rejected error => exact ⟨none, rfl⟩
      | misfit misfit => exact absurd classified (classify_of_textual textual misfit)

theorem itemOf_of_textual : ∃ item?, itemOf decl = .ok item? := by
  unfold itemOf
  rw [declared?_of_textual textual, declared?_of_textual textual]
  exact ⟨_, rfl⟩

/-- The members of a textual declaration are loaded one after the other. -/
theorem membersOf_eq (member : Tree → Except Misfit (Option (String × α))) (tag : String) :
    membersOf member decl tag =
      (((decl.under tag).mapM member).map (·.filterMap id)).map Table.ofList := by
  unfold membersOf
  rw [childrenOf_of_textual textual tag]
  change ((decl.under tag).mapM member >>= _) = _
  cases (decl.under tag).mapM member <;> rfl

theorem membersOf_of_textual {member : Tree → Except Misfit (Option (String × α))}
    (loads : ∀ child : Tree, child.isTextual = true → ∃ member?, member child = .ok member?) (tag : String) :
    ∃ table, membersOf member decl tag = .ok table := by
  obtain ⟨members, loaded⟩ := Attempt.exists_mapM_eq_ok
    fun child mem => loads child (Tree.textual_of_mem_under textual mem)
  rw [membersOf_eq textual, loaded]
  exact ⟨_, rfl⟩

theorem structureOf_of_textual {member : Tree → Except Misfit (Option (String × α))}
    (loads : ∀ child : Tree, child.isTextual = true → ∃ member?, member child = .ok member?) (tag : String)
    (build : String → Table α → Structure) :
    ∃ structure?, structureOf member tag build decl = .ok structure? := by
  obtain ⟨members, loaded⟩ := membersOf_of_textual textual loads tag
  unfold structureOf
  rw [declared?_of_textual textual, loaded]
  cases (decl.first? "Name").filter isGiven with
  | none => exact ⟨none, rfl⟩
  | some name => exact ⟨_, rfl⟩

end

/-- A textual source contributes a structure or nothing. -/
theorem contribution_of_textual {source : Source} (textual : source.node.isTextual = true) :
    ∃ contribution, source.contribution = .ok contribution := by
  by_cases isClass : source.rootTag = "Class"
  · rw [contribution_class isClass]
    exact structureOf_of_textual textual (fun _ => propertyOf_of_textual) _ _
  · by_cases isEnum : source.rootTag = "Enum"
    · rw [contribution_enum isEnum]
      exact structureOf_of_textual textual (fun _ => itemOf_of_textual) _ _
    · exact ⟨none, contribution_other isClass isEnum⟩

/-- Textual sources always load. -/
theorem load_of_textual {sources : List Source} (textual : ∀ source ∈ sources, source.node.isTextual = true) :
    ∃ registry, (load sources).outcome = .ok registry := by
  obtain ⟨contributions, loaded⟩ := Attempt.exists_mapM_eq_ok
    fun source mem => contribution_of_textual (textual source mem)
  rw [outcome_load, loaded]
  exact ⟨_, rfl⟩

end ViewModel.Schema
