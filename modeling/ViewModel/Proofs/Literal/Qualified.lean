import ViewModel.Literal.DataModule
import ViewModel.Proofs.Literal.Textual
import ViewModel.Proofs.Schema.Qualified

/-!
# Qualification is informational

A name is looked up, and reported as unknown, by its last segment only. So neither the qualifications of the
sub-types in a schema nor that of the type of a root can be told from what is generated.

* `resolve_qualified`: a qualified name resolves, or fails to, as the bare one does;
* `value_qualified`, `render_qualified`: the literal and the module of a tree of a qualified type;
* `qualification_invisible`: all of it, from the sources on.
-/

namespace ViewModel

open Schema

section

variable (qualification typeName : String)

theorem Schema.Registry.resolve_qualified (registry : Registry) :
    registry.resolve (qualified qualification typeName) = registry.resolve typeName := by
  unfold resolve lookup?
  rw [finalSegment_qualified]

theorem Literal.Encoder.value_qualified (encoder : Encoder) (tree : Tree) (indent : String) :
    encoder.value (qualified qualification typeName) tree indent = encoder.value typeName tree indent := by
  rw [value, value, Registry.resolve_qualified]

theorem Literal.DataModule.render_qualified (options : DataModule) (registry : Registry) (sourceName : String)
    (tree : Tree) :
    options.render registry sourceName (qualified qualification typeName) tree =
      options.render registry sourceName typeName tree := by
  unfold render Encoder.encode
  simp only [Registry.resolve_qualified, Encoder.value_qualified]

end

open Literal

/-- **Qualification is invisible.** Sources load alike, with the same records, whatever qualifications are put
before sub-types that the declarations of their properties name; so the types module is the same, and every tree
is encoded alike. And over every registry a tree is encoded alike as of a type and as of the type with a
qualification, with the same records or the same error, and so is its data module. -/
theorem qualification_invisible :
    (∀ sources others, List.Forall₂ Requalified sources others →
      load others = load sources ∧
      ∀ registry other, (load sources).outcome = .ok registry → (load others).outcome = .ok other →
        other = registry ∧
        (∀ options, TypesModule.render other options = TypesModule.render registry options) ∧
        ∀ indent font typeName tree, (Encoder.mk other indent font).encode typeName tree =
          (Encoder.mk registry indent font).encode typeName tree) ∧
    ∀ registry qualification typeName tree,
      (∀ indent font, (Encoder.mk registry indent font).encode (qualified qualification typeName) tree =
        (Encoder.mk registry indent font).encode typeName tree) ∧
      ∀ (options : DataModule) sourceName,
        options.render registry sourceName (qualified qualification typeName) tree =
          options.render registry sourceName typeName tree := by
  constructor
  · intro sources others requalified
    have same := load_of_requalified requalified
    refine ⟨same, ?_⟩
    intro registry other loaded loaded'
    obtain rfl : other = registry := Except.ok.inj ((same ▸ loaded').symm.trans loaded)
    exact ⟨rfl, fun _ => rfl, fun _ _ _ _ => rfl⟩
  · intro registry qualification typeName tree
    constructor
    · intro indent font
      exact Encoder.value_qualified qualification typeName _ tree ""
    · intro options sourceName
      exact DataModule.render_qualified qualification typeName options registry sourceName tree

/-- The source of a class with an image, a suit and tags, whose sub-types are named as given. -/
def hangingSource (image suit tag : String) : Source :=
  ⟨"hanging.xml", "Class", .element [
    ("Name", .list [.text "Hanging"]),
    ("Property", .list [
      .element [("Name", .list [.text "Art"]), ("Type", .list [.text "Object"]), ("SubType", .list [.text image])],
      .element [("Name", .list [.text "Suit"]), ("Type", .list [.text "Enum"]), ("SubType", .list [.text suit])],
      .element [("Name", .list [.text "Tags"]), ("Type", .list [.text "Collection"]),
        ("SubType", .list [.text tag])]])]⟩

def hangingRegistry : Registry :=
  Registry.empty.seed.add (.classType "Hanging" (Table.ofList
    [("Art", .image none), ("Suit", .enum "Suit"), ("Tags", .collection "String")]))

/-- The kind of an image is recognised behind its qualification, and points in a qualification do not matter. A
name that ends with a point stands for the empty name. -/
theorem qualification_invisible_hanging :
    List.Forall₂ Requalified [hangingSource "ImageSource" "Suit" "String"]
        [hangingSource "Noesis.ImageSource" "Game..Cards.Suit" "String"] ∧
      (load [hangingSource "ImageSource" "Suit" "String"]).outcome = .ok hangingRegistry ∧
      load [hangingSource "Noesis.ImageSource" "Game..Cards.Suit" "String"] =
        load [hangingSource "ImageSource" "Suit" "String"] ∧
      (∀ tree, (Encoder.mk hangingRegistry 2 "Bangers").encode "Game.Hanging" tree =
        (Encoder.mk hangingRegistry 2 "Bangers").encode "Hanging" tree) ∧
      ((Encoder.mk hangingRegistry 2 "Bangers").encode "Hanging." .nothing).outcome = .error (.unknown ⟨""⟩) := by
  have property {name type subType subType' : Tree} (h : Qualifies subType subType') : DiffersAt "SubType" Qualifies
      (.element [("Name", .list [name]), ("Type", .list [type]), ("SubType", .list [subType])])
      (.element [("Name", .list [name]), ("Type", .list [type]), ("SubType", .list [subType'])]) := by
    refine ⟨?_, .inr ⟨_, _, rfl, rfl, .cons h .nil⟩⟩
    intro key apart
    have other := beq_false_of_ne apart
    simp [Tree.field?, Tree.fields, List.lookup_cons, other]
  have requalified : Requalified (hangingSource "ImageSource" "Suit" "String")
      (hangingSource "Noesis.ImageSource" "Game..Cards.Suit" "String") := by
    refine ⟨rfl, rfl, ?_, .inr ⟨_, _, rfl, rfl, .cons (property ?_) (.cons (property ?_) (.cons (property ?_) .nil))⟩⟩
    · intro key apart
      have other := beq_false_of_ne apart
      simp [hangingSource, Tree.field?, Tree.fields, List.lookup_cons, other]
    · exact .text "Noesis" (by decide)
    · exact .text "Game..Cards" (by decide)
    · exact .same _
  obtain ⟨sources, names⟩ := qualification_invisible
  have encoded (typeName : String) (tree : Tree) := (names hangingRegistry "Game" typeName tree).1 2 "Bangers"
  refine ⟨.cons requalified .nil, rfl, (sources _ _ (.cons requalified .nil)).1, encoded "Hanging", ?_⟩
  have bare := (names hangingRegistry "Hanging" "" .nothing).1 2 "Bangers"
  have absent : hangingRegistry.lookup? "" = none := rfl
  have unknown := Encoder.value_of_unknown (Encoder.mk hangingRegistry 2 "Bangers") absent .nothing ""
  exact congrArg Attempt.outcome (bare.trans unknown)

end ViewModel
