import ViewModel.Proofs.Schema.Members

/-!
# Qualified sub-types

A sub-type counts only with its last segment, and it is reduced to that before anything else is asked of it. So
whatever qualification is put before the sub-types that property declarations name, every declaration is classified
as it was, every source loads as it did, and so does the whole schema, with the same records.

* `finalSegment_qualified`: a qualification does not change the last segment;
* `DiffersAt`: trees that differ in the values of one field, the declarations and the roots of sources alike;
* `classify_of_requalified`, `loadClass_of_requalified`, `addTo_of_requalified`: a declaration, a class and a
  source;
* `load_of_requalified`: the schema.
-/

namespace ViewModel.Schema

/-- A type name with a qualification before it. -/
def qualified (qualification typeName : String) : String := qualification ++ "." ++ typeName

theorem finalSegment_qualified (qualification typeName : String) :
    finalSegment (qualified qualification typeName) = finalSegment typeName := by
  have chars : (qualified qualification typeName).toList = qualification.toList ++ '.' :: typeName.toList := by
    simp [qualified]
  rw [finalSegment, Text.lastSegment, chars, Text.afterLast_append, finalSegment, Text.lastSegment]

theorem qualified_ne_empty (qualification typeName : String) : qualified qualification typeName ≠ "" := by
  intro empty
  have chars := congrArg String.toList empty
  simp [qualified] at chars

/-- The same value, or a text that is not empty with a qualification put before it. -/
inductive Qualifies : Tree → Tree → Prop
  | same (value : Tree) : Qualifies value value
  | text (qualification : String) {typeName : String} :
      typeName ≠ "" → Qualifies (.text typeName) (.text (qualified qualification typeName))

/-- The trees have the same fields but for that of the name, where the values in the list are related one by one. -/
structure DiffersAt (name : String) (related : Tree → Tree → Prop) (tree other : Tree) : Prop where
  others : ∀ key, key ≠ name → other.field? key = tree.field? key
  values : other.field? name = tree.field? name ∨ ∃ items items',
    tree.field? name = some (.list items) ∧ other.field? name = some (.list items') ∧
      List.Forall₂ related items items'

/-- The second source is the first one, with qualifications put before some of the sub-types that the declarations
of its properties name. -/
structure Requalified (source other : Source) : Prop where
  name : other.name = source.name
  rootTag : other.rootTag = source.rootTag
  node : DiffersAt "Property" (DiffersAt "SubType" Qualifies) source.node other.node

theorem DiffersAt.declared? {name key : String} {related : Tree → Tree → Prop} {tree other : Tree}
    (h : DiffersAt name related tree other) (apart : key ≠ name) : declared? other key = declared? tree key := by
  unfold Schema.declared?
  rw [h.others key apart]

section

variable {decl other : Tree} (h : DiffersAt "SubType" Qualifies decl other)
include h

/-- A sub-type that is given is still given, and has the same last segment. -/
theorem subTypeOf_of_requalified (type : String) : subTypeOf other type = subTypeOf decl type := by
  rcases h.values with same | ⟨items, items', held, held', alike⟩
  · unfold subTypeOf declared?
    rw [same]
  · unfold subTypeOf
    rw [declared?_of_list held, declared?_of_list held']
    cases alike with
    | nil => rfl
    | cons first _ =>
      cases first with
      | same => rfl
      | @text qualification typeName given =>
        have kept {text : String} (given : text ≠ "") : (some (Tree.text text)).filter isGiven = some (.text text) := by
          simp [isGiven, given]
        rw [List.head?_cons, List.head?_cons, kept given, kept (qualified_ne_empty _ _)]
        exact congrArg Except.ok (finalSegment_qualified _ _)

theorem classify_of_requalified : classify other = classify decl := by
  have field {name : String} (apart : name ≠ "SubType") : declaredField other name = declaredField decl name := by
    rw [declaredField, declaredField, h.declared? apart]
  unfold classify
  simp only [field, subTypeOf_of_requalified h, ne_eq, String.reduceEq, not_false_eq_true]

theorem loadProperty_of_requalified (className : String) :
    loadProperty className other = loadProperty className decl := by
  unfold loadProperty
  rw [h.declared? (by decide), classify_of_requalified h]

end

section

variable {decl other : Tree} (h : DiffersAt "Property" (DiffersAt "SubType" Qualifies) decl other)
include h

theorem nameOf_of_requalified (kind : String) : nameOf other kind = nameOf decl kind := by
  unfold nameOf
  rw [h.declared? (by decide)]

theorem properties_of_requalified (className : String) :
    loadMembers (loadProperty className) other "Property" = loadMembers (loadProperty className) decl "Property" := by
  unfold loadMembers
  rcases h.values with same | ⟨items, items', held, held', alike⟩
  · rw [same]
  · have members : items'.mapM (loadProperty className) = items.mapM (loadProperty className) :=
      (mapM_congr_of_forall₂ (alike.imp fun _ _ differs => (loadProperty_of_requalified differs className).symm)).symm
    rw [held, held']
    change pure items' >>= _ = pure items >>= _
    rw [pure_bind, pure_bind, members]

theorem loadClass_of_requalified : loadClass other = loadClass decl := by
  unfold loadClass
  simp only [nameOf_of_requalified h, properties_of_requalified h]

/-- The declaration of an enum has no sub-types to be read. -/
theorem loadEnum_of_requalified : loadEnum other = loadEnum decl := by
  unfold loadEnum loadMembers
  simp only [nameOf_of_requalified h, h.others "Item" (by decide)]

end

section

variable {source other : Source} (h : Requalified source other)
include h

theorem addTo_of_requalified (registry : Registry) : other.addTo registry = source.addTo registry := by
  have loads : other.load = source.load := by
    unfold Source.load
    rw [h.rootTag, loadClass_of_requalified h.node, loadEnum_of_requalified h.node]
  unfold Source.addTo
  rw [loads, h.name]

end

/-- Qualified sources load as they did, and make the same records. -/
theorem load_of_requalified {sources others : List Source} (h : List.Forall₂ Requalified sources others) :
    load others = load sources := by
  have added (registry : Registry) : others.foldlM Source.addTo registry = sources.foldlM Source.addTo registry := by
    induction h generalizing registry with
    | nil => rfl
    | cons first _ ih =>
      rw [List.foldlM_cons, List.foldlM_cons, addTo_of_requalified first]
      exact congrArg _ (funext ih)
  unfold load
  rw [added]

end ViewModel.Schema
