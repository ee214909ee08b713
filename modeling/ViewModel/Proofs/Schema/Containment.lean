import ViewModel.Proofs.Schema.Textual

/-!
# Failures are contained

A source that fails to load, a property that is rejected and an item that is left out change nothing in the
registry. It is the one that loads if they are deleted, whatever names they share with what is accepted.

* `Pruned`: a list with some items deleted and others lightened;
* `contribution_of_lightened`: deleting failing members from a source keeps what it contributes;
* `load_of_pruned`: deleting failing sources and members keeps the registry.
-/

namespace ViewModel.Schema

variable {α β ε : Type} {fails : α → Prop} {lighter : α → α → Prop}

/-- The second list is the first one, with some of the failing items deleted and others lightened. -/
inductive Pruned (fails : α → Prop) (lighter : α → α → Prop) : List α → List α → Prop
  | nil : Pruned fails lighter [] []
  | keep {item other items pruned} : lighter item other → Pruned fails lighter items pruned →
      Pruned fails lighter (item :: items) (other :: pruned)
  | drop {item items pruned} : fails item → Pruned fails lighter items pruned →
      Pruned fails lighter (item :: items) pruned

theorem filterMap_mapM_cons (step : α → Except ε (Option β)) (item : α) (rest : List α) :
    ((item :: rest).mapM step).map (·.filterMap id) = do
      let result ← step item
      let results ← (rest.mapM step).map (·.filterMap id)
      return result.toList ++ results := by
  rw [List.mapM_cons]
  cases step item with
  | error error => rfl
  | ok result =>
    cases rest.mapM step with
    | error error => rfl
    | ok results => cases result <;> rfl

/-- Steps that make nothing of failing items and the same of lightened ones make the same of a pruned
list. -/
theorem Pruned.filterMap_mapM {items pruned : List α} (h : Pruned fails lighter items pruned)
    {step : α → Except ε (Option β)} (failed : ∀ item ∈ items, fails item → step item = .ok none)
    (kept : ∀ item ∈ items, ∀ other, lighter item other → step other = step item) :
    (pruned.mapM step).map (·.filterMap id) = (items.mapM step).map (·.filterMap id) := by
  induction h with
  | nil => rfl
  | keep light _ ih =>
    have rest := ih (fun item mem => failed item (List.mem_cons_of_mem _ mem))
      fun item mem => kept item (List.mem_cons_of_mem _ mem)
    rw [filterMap_mapM_cons, filterMap_mapM_cons, kept _ List.mem_cons_self _ light, rest]
  | @drop item items pruned fail _ ih =>
    have rest := ih (fun item mem => failed item (List.mem_cons_of_mem _ mem))
      fun item mem => kept item (List.mem_cons_of_mem _ mem)
    rw [filterMap_mapM_cons, failed _ List.mem_cons_self fail, rest]
    cases (items.mapM step).map (·.filterMap id) <;> rfl

/-- A property that has no name or is not classified. -/
def PropertyFails (decl : Tree) : Prop :=
  declared? decl "Name" = .ok none ∨ ∃ error, (classify decl).outcome = .error (.rejected error)

/-- An item that has no name or no integer value. -/
def ItemFails (item : Tree) : Prop :=
  declared? item "Name" = .ok none ∨ ∃ value, declared? item "Value" = .ok value ∧ ordinal? value = none

/-- A source whose root is neither a class nor an enum, or has no name. -/
def SourceFails (source : Source) : Prop :=
  (source.rootTag ≠ "Class" ∧ source.rootTag ≠ "Enum") ∨ declared? source.node "Name" = .ok none

/-- The second declaration is the first one without some of its failing members. -/
structure Trimmed (fails : Tree → Prop) (tag : String) (decl trimmed : Tree) : Prop where
  textual : trimmed.isTextual = true
  others : ∀ name, name ≠ tag → trimmed.field? name = decl.field? name
  members : Pruned fails Eq (decl.under tag) (trimmed.under tag)

/-- The second source is the first one, without some of the failing members if it is a class or an enum. -/
inductive Lightened : Source → Source → Prop
  | same (source : Source) : Lightened source source
  | classType {name decl trimmed} : Trimmed PropertyFails "Property" decl trimmed →
      Lightened ⟨name, "Class", decl⟩ ⟨name, "Class", trimmed⟩
  | enumType {name decl trimmed} : Trimmed ItemFails "Item" decl trimmed →
      Lightened ⟨name, "Enum", decl⟩ ⟨name, "Enum", trimmed⟩

section

variable {decl : Tree} (textual : decl.isTextual = true)
include textual

theorem propertyOf_of_fails (h : PropertyFails decl) : propertyOf decl = .ok none := by
  unfold propertyOf
  rcases h with nameless | ⟨error, rejected⟩
  · rw [nameless]
  · rw [declared?_of_textual textual, rejected]
    cases (decl.first? "Name").filter isGiven <;> rfl

theorem itemOf_of_fails (h : ItemFails decl) : itemOf decl = .ok none := by
  unfold itemOf
  rcases h with nameless | ⟨value, given, noOrdinal⟩
  · rw [nameless, declared?_of_textual textual]
    rfl
  · rw [given, declared?_of_textual textual]
    cases (decl.first? "Name").filter isGiven with
    | none => rfl
    | some name =>
      change Except.ok ((ordinal? value).map _) = _
      rw [noOrdinal]
      rfl

theorem membersOf_of_trimmed {fails : Tree → Prop} {tag : String} {trimmed : Tree}
    (h : Trimmed fails tag decl trimmed) {member : Tree → Except Misfit (Option (String × α))}
    (failed : ∀ child : Tree, child.isTextual = true → fails child → member child = .ok none) :
    membersOf member trimmed tag = membersOf member decl tag := by
  have same := h.members.filterMap_mapM
    (fun child mem => failed child (Tree.textual_of_mem_under textual mem))
    fun child _ other alike => congrArg member alike.symm
  rw [membersOf_eq textual, membersOf_eq h.textual, same]

/-- An element that loses failing members declares the same. -/
theorem structureOf_of_trimmed {fails : Tree → Prop} {tag : String} {trimmed : Tree}
    (h : Trimmed fails tag decl trimmed) (apart : "Name" ≠ tag)
    {member : Tree → Except Misfit (Option (String × α))}
    (failed : ∀ child : Tree, child.isTextual = true → fails child → member child = .ok none)
    (build : String → Table α → Structure) :
    structureOf member tag build trimmed = structureOf member tag build decl := by
  have named : declared? trimmed "Name" = declared? decl "Name" := by
    unfold declared?
    rw [h.others "Name" apart]
  unfold structureOf
  rw [named, membersOf_of_trimmed textual h failed]

end

/-- A source that loses failing members contributes the same. -/
theorem contribution_of_lightened {source lightened : Source} (textual : source.node.isTextual = true)
    (h : Lightened source lightened) : lightened.contribution = source.contribution := by
  cases h with
  | same => rfl
  | classType h =>
    rw [contribution_class rfl, contribution_class rfl]
    exact structureOf_of_trimmed textual h (by decide) (fun _ => propertyOf_of_fails) _
  | enumType h =>
    rw [contribution_enum rfl, contribution_enum rfl]
    exact structureOf_of_trimmed textual h (by decide) (fun _ => itemOf_of_fails) _

/-- A source that fails contributes nothing. -/
theorem contribution_of_fails {source : Source} (h : SourceFails source) : source.contribution = .ok none := by
  by_cases isClass : source.rootTag = "Class"
  · rcases h with ⟨notClass, -⟩ | nameless
    · exact absurd isClass notClass
    · rw [contribution_class isClass, structureOf, nameless]
  · by_cases isEnum : source.rootTag = "Enum"
    · rcases h with ⟨-, notEnum⟩ | nameless
      · exact absurd isEnum notEnum
      · rw [contribution_enum isEnum, structureOf, nameless]
    · exact contribution_other isClass isEnum

/-- **Failures are contained.** Textual sources load, and the registry is the one that they load to without
any of the failing sources, of the rejected properties of the classes and of the incomplete items of the
enums. -/
theorem load_of_pruned {sources : List Source} (textual : ∀ source ∈ sources, source.node.isTextual = true) :
    ∃ registry, (load sources).outcome = .ok registry ∧
      ∀ pruned, Pruned SourceFails Lightened sources pruned → (load pruned).outcome = .ok registry := by
  obtain ⟨registry, loaded⟩ := load_of_textual textual
  refine ⟨registry, loaded, ?_⟩
  intro pruned h
  have same := h.filterMap_mapM (fun _ _ => contribution_of_fails)
    fun source mem other => contribution_of_lightened (textual source mem)
  rw [← loaded, outcome_load, outcome_load, same]

/-- The class of a card, with a property that is declared again in an unknown form, and one that is a text;
an enum with an item of no integer value; and a source of an unknown form. -/
def faultySources : List Source :=
  [⟨"card.xml", "Class", .element [
    ("Name", .list [.text "Card"]),
    ("Property", .list [
      .element [("Name", .list [.text "Points"]), ("Type", .list [.text "Number"])],
      .element [("Name", .list [.text "Points"]), ("Type", .list [.text "Widget"])],
      .text "stray"])]⟩,
  ⟨"suit.xml", "Enum", .element [
    ("Name", .list [.text "Suit"]),
    ("Item", .list [
      .element [("Name", .list [.text "Cups"]), ("Value", .list [.text "many"])]])]⟩,
  ⟨"card.xml", "Struct", .element [("Name", .list [.text "Card"])]⟩]

def soundSources : List Source :=
  [⟨"card.xml", "Class", .element [
    ("Name", .list [.text "Card"]),
    ("Property", .list [
      .element [("Name", .list [.text "Points"]), ("Type", .list [.text "Number"])]])]⟩,
  ⟨"suit.xml", "Enum", .element [("Name", .list [.text "Suit"])]⟩]

/-- A rejected property of an accepted name, and a failing source of one, leave the registry as it is. -/
theorem load_of_pruned_faultySources :
    ∃ registry, (load faultySources).outcome = .ok registry ∧ (load soundSources).outcome = .ok registry := by
  have textual : ∀ source ∈ faultySources, source.node.isTextual = true := by decide
  obtain ⟨registry, loaded, same⟩ := load_of_pruned textual
  refine ⟨registry, loaded, same soundSources (.keep (.classType ?_) (.keep (.enumType ?_) (.drop ?_ .nil)))⟩
  · refine ⟨rfl, ?_, .keep rfl (.drop (.inr ⟨_, rfl⟩) (.drop (.inl rfl) .nil))⟩
    intro name other
    have apart := beq_false_of_ne other
    simp [Tree.field?, Tree.fields, List.lookup_cons, apart]
  · refine ⟨rfl, ?_, .drop (.inr ⟨_, rfl, rfl⟩) .nil⟩
    intro name other
    have apart := beq_false_of_ne other
    simp [Tree.field?, Tree.fields, List.lookup_cons, apart]
  · exact .inl ⟨by decide, by decide⟩

end ViewModel.Schema
