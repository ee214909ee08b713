import ViewModel.Schema.Source
import ViewModel.Proofs.Log

/-!
# What declarations come to

The outcomes of loading properties, items and whole declarations, apart from what they record. The name of
the class or enum only stands in messages, so it does not matter to the outcome of a member.

* `outcome_loadProperty`, `outcome_loadItem`: a member, or nothing where it is rejected;
* `outcome_loadMembers`: the table of the members that load;
* `outcome_loadClass`, `outcome_loadEnum`: the declared structure;
* `load_class`, `load_enum`, `load_other`: a source goes by the tag of its root.
-/

namespace ViewModel.Schema

def childrenOf (decl : Tree) (tag : String) : Except Misfit (List Tree) :=
  match decl.field? tag with
  | none => .ok []
  | some values => values.items

def firstOf (decl : Tree) (name : String) : Except Misfit (Option Tree) :=
  match decl.field? name with
  | none => .ok none
  | some values => values.head?

/-- Whether a first value counts as given: nothing does not, and neither does the empty text. -/
def isGiven : Tree → Bool
  | .nothing => false
  | .text value => !value.isEmpty
  | _ => true

theorem declared?_eq (decl : Tree) (name : String) :
    declared? decl name = (firstOf decl name).map (·.filter isGiven) := by
  unfold declared? firstOf
  cases decl.field? name with
  | none => rfl
  | some values =>
    dsimp only
    cases values.head? with
    | error misfit => rfl
    | ok first =>
      cases first with
      | none => rfl
      | some value =>
        cases value with
        | text value =>
          change Except.ok (if value.isEmpty then none else some (.text value)) =
            Except.ok (if !value.isEmpty then some (Tree.text value) else none)
          cases value.isEmpty <;> rfl
        | _ => rfl

theorem declared?_of_list {decl : Tree} {name : String} {items : List Tree}
    (held : decl.field? name = some (.list items)) : declared? decl name = .ok (items.head?.filter isGiven) := by
  rw [declared?_eq, firstOf, held]
  rfl

theorem isGiven_of_declared? {decl value : Tree} {name : String}
    (h : declared? decl name = .ok (some value)) : isGiven value = true := by
  rw [declared?_eq] at h
  cases first : firstOf decl name with
  | error misfit => rw [first] at h; cases h
  | ok first? =>
    rw [first] at h
    exact (Option.filter_eq_some_iff.1 (Except.ok.inj h)).2

/-- The property that a child declares, or nothing if it is rejected. -/
def propertyOf (decl : Tree) : Except Misfit (Option (String × PropertyKind)) :=
  match declared? decl "Name" with
  | .error misfit => .error misfit
  | .ok none => .ok none
  | .ok (some name) =>
    match (classify decl).outcome with
    | .ok kind => .ok (some (name.written, kind))
    | .error (.misfit misfit) => .error misfit
    | .error (.rejected _) => .ok none

/-- The item that a child declares, or nothing if its name or its ordinal is missing. -/
def itemOf (item : Tree) : Except Misfit (Option (String × Int)) := do
  let name ← declared? item "Name"
  let value ← declared? item "Value"
  return name.bind fun name => (ordinal? value).map fun ordinal => (name.written, ordinal)

/-- The table of the members that the children under a tag come to. -/
def membersOf (member : Tree → Except Misfit (Option (String × α))) (decl : Tree) (tag : String) :
    Except Misfit (Table α) := do
  let children ← childrenOf decl tag
  let members ← children.mapM member
  return Table.ofList (members.filterMap id)

theorem outcome_loadProperty (className : String) (decl : Tree) :
    (loadProperty className decl).outcome = propertyOf decl := by
  unfold loadProperty propertyOf
  rw [Attempt.outcome_bind, Attempt.outcome_ofExcept]
  cases declared? decl "Name" with
  | error misfit => rfl
  | ok name? =>
    cases name? with
    | none => rfl
    | some name =>
      change Attempt.outcome (ExceptT.lift (classify decl).run >>= _) = _
      rw [Attempt.outcome_bind_ok (Attempt.outcome_lift_run _)]
      dsimp only
      cases (classify decl).outcome with
      | ok kind => rfl
      | error error => cases error <;> rfl

theorem outcome_loadItem (enumName : String) (item : Tree) :
    (loadItem enumName item).outcome = itemOf item := by
  unfold loadItem itemOf
  rw [Attempt.outcome_bind, Attempt.outcome_ofExcept]
  congr 1
  funext name?
  rw [Attempt.outcome_bind, Attempt.outcome_ofExcept]
  congr 1
  funext value
  cases name? with
  | none => rfl
  | some name => rw [Option.bind_some]; cases ordinal? value <;> rfl

theorem outcome_loadMembers {load : Tree → Attempt Misfit (Option (String × α))}
    {member : Tree → Except Misfit (Option (String × α))} (h : ∀ child, (load child).outcome = member child)
    (decl : Tree) (tag : String) : (loadMembers load decl tag).outcome = membersOf member decl tag := by
  unfold loadMembers membersOf
  rw [Attempt.outcome_bind, Attempt.outcome_ofExcept]
  change (childrenOf decl tag >>= _) = _
  congr 1
  funext children
  rw [Attempt.outcome_bind, Attempt.outcome_mapM]
  simp only [h]
  rfl

theorem outcome_loadClass (decl : Tree) :
    (loadClass decl).outcome = do
      let name ← nameOf decl "Class"
      let properties ← (membersOf propertyOf decl "Property").mapError SchemaError.misfit
      return .classType name properties := by
  unfold loadClass
  rw [Attempt.outcome_bind, Attempt.outcome_ofExcept]
  congr 1
  funext name
  rw [Attempt.outcome_bind, Attempt.outcome_adapt, outcome_loadMembers (outcome_loadProperty name)]
  rfl

theorem outcome_loadEnum (decl : Tree) :
    (loadEnum decl).outcome = do
      let name ← nameOf decl "Enum"
      let items ← (membersOf itemOf decl "Item").mapError SchemaError.misfit
      return .enumType name items := by
  unfold loadEnum
  rw [Attempt.outcome_bind, Attempt.outcome_ofExcept]
  congr 1
  funext name
  rw [Attempt.outcome_bind, Attempt.outcome_adapt, outcome_loadMembers (outcome_loadItem name)]
  rfl

section

variable {source : Source}

theorem load_class (h : source.rootTag = "Class") :
    source.load.outcome = (loadClass source.node).outcome.mapError .declaration := by
  unfold Source.load
  rw [h]
  rfl

theorem load_enum (h : source.rootTag = "Enum") :
    source.load.outcome = (loadEnum source.node).outcome.mapError .declaration := by
  unfold Source.load
  rw [h]
  rfl

theorem load_other (notClass : source.rootTag ≠ "Class") (notEnum : source.rootTag ≠ "Enum") :
    source.load.outcome = .error .unknownRoot := by
  unfold Source.load
  simp [notClass, notEnum]

end

end ViewModel.Schema
