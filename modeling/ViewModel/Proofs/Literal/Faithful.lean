import ViewModel.Proofs.Literal.Conformance
import ViewModel.Proofs.Literal.Layout
import ViewModel.Proofs.Schema.Registry

/-!
# Literals lose no data

Two trees that conform to one type carry data of the same form, so their literals are the same only if
their data are. Left out are colours that are read as items or objects of their own, which are written as
they stand, and numbers with a point.

* `alike_of_carries`: what trees of one type carry has one form;
* `encode_inj`: the same literal, the same data.
-/

namespace ViewModel.Literal

open Schema Attempt Datum

/-- A value of the first type may hold one of the second, as an object or an item of a collection. -/
inductive Reaches (registry : Registry) : String → String → Prop
  | refl {typeName} : Reaches registry typeName typeName
  | step {typeName name properties property kind subType other} :
      registry.lookup? typeName = some (.classType name properties) →
      (property, kind) ∈ properties.entries → kind = .object subType ∨ kind = .collection subType →
      Reaches registry (dataTag subType) other → Reaches registry typeName other

/-- No colour of its own stands anywhere in a value of the type. -/
def Colourless (registry : Registry) (typeName : String) : Prop :=
  ∀ other, Reaches registry typeName other → registry.lookup? other ≠ some (.builtIn "Color")

/-- The form of what is carried at a built-in type. -/
inductive HasForm : String → Datum → Prop
  | integer {n} : HasForm "Single" (.integer n)
  | flag {value} : HasForm "Boolean" (.flag value)
  | string {text} : HasForm "String" (.quoted text)
  | bitmapImage {text} : HasForm "BitmapImage" (.quoted text)
  | solidColorBrush {text} : HasForm "SolidColorBrush" (.quoted text)
  | messageCommand {message} : HasForm "MessageCommand" (.command message)

theorem hasForm_of_carries {name : String} {tree : Tree} {datum : Datum}
    (carries : CarriesBuiltIn name tree datum) (plain : datum.isPlain = true) (uncoloured : name ≠ "Color") :
    HasForm name datum := by
  cases carries with
  | integer => exact .integer
  | decimal => cases plain
  | flag => exact .flag
  | string => exact .string
  | color => exact absurd rfl uncoloured
  | bitmapImage => exact .bitmapImage
  | solidColorBrush => exact .solidColorBrush
  | messageCommand => exact .messageCommand

theorem HasForm.opens {name : String} {datum : Datum} (h : HasForm name datum) : datum.Opens := by
  cases h <;> trivial

theorem HasForm.alike {name name' : String} {datum datum' : Datum} (h : HasForm name datum)
    (h' : HasForm name' datum') (same : name = name') : Alike datum datum' := by
  cases h <;> cases h' <;> first | exact absurd same (by decide) | constructor

section

variable {registry : Registry}

theorem Colourless.child {typeName name subType property : String} {properties : Table PropertyKind}
    {kind : PropertyKind} (h : Colourless registry typeName)
    (found : registry.lookup? typeName = some (.classType name properties))
    (mem : (property, kind) ∈ properties.entries) (refers : kind = .object subType ∨ kind = .collection subType) :
    Colourless registry (dataTag subType) := by
  intro other reaches
  exact h other (.step found mem refers reaches)

theorem Colourless.builtIn {typeName name : String} (h : Colourless registry typeName)
    (found : registry.lookup? typeName = some (.builtIn name)) : name ≠ "Color" := by
  rintro rfl
  exact h typeName .refl found

/-- What is carried at a type of the registry opens with the mark of its form. -/
theorem opens_of_carries (named : ∀ found ∈ registry.structures, Text.isIdentifier found.name = true)
    {typeName : String} (colourless : Colourless registry typeName) {tree : Tree} {datum : Datum}
    (plain : datum.isPlain = true) (carries : Carries registry typeName tree datum) : datum.Opens := by
  cases carries with
  | classType => trivial
  | enumType found => exact named _ (Registry.mem_structures_of_lookup? found)
  | builtIn found carried => exact (hasForm_of_carries carried plain (colourless.builtIn found)).opens

/-- Trees that weigh less than the bound and carry plain data of one type carry data of one form. -/
def AlikeBelow (registry : Registry) (bound : Nat) : Prop :=
  ∀ child : Tree, child.weight < bound → ∀ child' typeName datum datum',
    Colourless registry typeName → Carries registry typeName child datum →
    Carries registry typeName child' datum' → datum.isPlain = true → datum'.isPlain = true →
    Alike datum datum'

theorem alikeAll_of_carries (named : ∀ found ∈ registry.structures, Text.isIdentifier found.name = true)
    {typeName : String} (colourless : Colourless registry typeName) {trees trees' : List Tree}
    {data data' : List Datum} (carries : CarriesAll registry typeName trees data)
    (carries' : CarriesAll registry typeName trees' data') (plain : itemsPlain data = true)
    (plain' : itemsPlain data' = true)
    (each : ∀ tree ∈ trees, ∀ tree' datum datum', Carries registry typeName tree datum →
      Carries registry typeName tree' datum' → datum.isPlain = true → datum'.isPlain = true →
      Alike datum datum') :
    AlikeAll data data' := by
  induction trees generalizing trees' data data' with
  | nil =>
    cases carries
    cases carries' with
    | nil => exact .nil
    | cons first _ =>
      obtain ⟨here, -⟩ := Bool.and_eq_true_iff.1 plain'
      exact .shorter (opens_of_carries named colourless here first)
  | cons tree rest ih =>
    cases carries with
    | cons first others =>
      obtain ⟨here, there⟩ := Bool.and_eq_true_iff.1 plain
      cases carries' with
      | nil => exact .longer (opens_of_carries named colourless here first)
      | cons first' others' =>
        obtain ⟨here', there'⟩ := Bool.and_eq_true_iff.1 plain'
        have alike := each tree List.mem_cons_self _ _ _ first first' here here'
        have later := ih others others' there there' fun tree mem => each tree (List.mem_cons_of_mem _ mem)
        exact .cons alike later

theorem weight_lt_of_wraps {tree child : Tree} {wrapper tag : String} (wraps : Wraps tree wrapper tag child) :
    child.weight < tree.weight := by
  obtain ⟨first, held, found⟩ := wraps
  have light := Tree.weight_lt_of_mem_under (Tree.mem_under_of_first? held)
  have lighter := Tree.weight_lt_of_mem_under (Tree.mem_under_of_first? found)
  omega

/-- What is carried at one property has one form. -/
theorem alike_of_carriesProperty (named : ∀ found ∈ registry.structures, Text.isIdentifier found.name = true)
    {name property : String} {kind : PropertyKind} {tree tree' : Tree} {datum datum' : Datum}
    (below : AlikeBelow registry tree.weight)
    (colourless : ∀ subType, kind = .object subType ∨ kind = .collection subType →
      Colourless registry (dataTag subType))
    (carries : CarriesProperty registry name tree property kind datum)
    (carries' : CarriesProperty registry name tree' property kind datum') (plain : datum.isPlain = true)
    (plain' : datum'.isPlain = true) : Alike datum datum' := by
  cases kind with
  | string => cases carries; cases carries'; exact .quoted
  | font => cases carries; cases carries'; exact .member
  | enum subType => cases carries; cases carries'; exact .member
  | boolean => cases carries; cases carries'; exact .flag
  | number =>
    cases carries with
    | decimal => cases plain
    | integer =>
      cases carries' with
      | decimal => cases plain'
      | integer => exact .integer
  | image source =>
    have form {tree : Tree} {datum : Datum} (plain : datum.isPlain = true)
        (carries : CarriesProperty registry name tree property (.image source) datum) :
        HasForm "BitmapImage" datum := by
      cases carries with
      | image => exact .bitmapImage
      | bitmap _ _ carried => exact hasForm_of_carries carried plain (by decide)
    exact (form plain carries).alike (form plain' carries') rfl
  | brush =>
    have form {tree : Tree} {datum : Datum} (plain : datum.isPlain = true)
        (carries : CarriesProperty registry name tree property .brush datum) :
        HasForm "SolidColorBrush" datum := by
      cases carries with
      | color => exact .solidColorBrush
      | brush _ _ carried => exact hasForm_of_carries carried plain (by decide)
    exact (form plain carries).alike (form plain' carries') rfl
  | command =>
    cases carries with
    | command _ carried =>
      cases carries' with
      | command _ carried' =>
        have form := hasForm_of_carries carried plain (by decide)
        have form' := hasForm_of_carries carried' plain' (by decide)
        exact form.alike form' rfl
  | object subType =>
    cases carries with
    | object wraps carried =>
      cases carries' with
      | object wraps' carried' =>
        have lighter := weight_lt_of_wraps wraps
        exact below _ lighter _ _ _ _ (colourless subType (.inl rfl)) carried carried' plain plain'
  | collection subType =>
    cases carries with
    | collection held filled carried =>
      cases carries' with
      | collection held' filled' carried' =>
        have clear := colourless subType (.inr rfl)
        refine .list (alikeAll_of_carries named clear carried carried' plain plain' ?_)
        intro child mem child' datum datum' first first'
        have light := Tree.weight_lt_of_mem_under (Tree.mem_under_of_first? held)
        have lighter := Tree.weight_lt_of_mem_under mem
        exact below child (by omega) child' _ _ _ clear first first'

theorem alikeEach_of_carries (named : ∀ found ∈ registry.structures, Text.isIdentifier found.name = true)
    {name : String} {properties : List (String × PropertyKind)} {tree tree' : Tree}
    {data data' : List (String × Datum)} (below : AlikeBelow registry tree.weight)
    (colourless : ∀ property kind, (property, kind) ∈ properties →
      ∀ subType, kind = .object subType ∨ kind = .collection subType → Colourless registry (dataTag subType))
    (carries : CarriesEach registry name tree properties data)
    (carries' : CarriesEach registry name tree' properties data') (plain : entriesPlain data = true)
    (plain' : entriesPlain data' = true) : AlikeEach data data' := by
  induction properties generalizing data data' with
  | nil =>
    cases carries
    cases carries'
    exact .nil
  | cons entry rest ih =>
    cases carries with
    | cons first others =>
      cases carries' with
      | cons first' others' =>
        obtain ⟨here, there⟩ := Bool.and_eq_true_iff.1 plain
        obtain ⟨here', there'⟩ := Bool.and_eq_true_iff.1 plain'
        have clear := colourless _ _ List.mem_cons_self
        have alike := alike_of_carriesProperty named below clear first first' here here'
        have clearer := fun property kind mem => colourless property kind (List.mem_cons_of_mem _ mem)
        exact .cons alike (ih clearer others others' there there')

/-- **What trees of one type carry has one form.** -/
theorem alike_of_carries (named : ∀ found ∈ registry.structures, Text.isIdentifier found.name = true)
    {typeName : String} (colourless : Colourless registry typeName) {tree tree' : Tree} {datum datum' : Datum}
    (carries : Carries registry typeName tree datum) (carries' : Carries registry typeName tree' datum')
    (plain : datum.isPlain = true) (plain' : datum'.isPlain = true) : Alike datum datum' := by
  -- By the weight of the first tree: a type may refer to itself, but its trees end.
  induction weight : tree.weight using Nat.strongRecOn generalizing tree tree' typeName datum datum' with
  | ind bound ih =>
    have below : AlikeBelow registry tree.weight := by
      intro child lighter child' typeName datum datum' clear carries carries' plain plain'
      exact ih child.weight (weight ▸ lighter) clear carries carries' plain plain' rfl
    cases carries with
    | classType found each =>
      cases carries' with
      | classType found' each' =>
        obtain ⟨rfl, rfl⟩ := Structure.classType.inj (Option.some.inj (found.symm.trans found'))
        refine .object (alikeEach_of_carries named below ?_ each each' plain plain')
        intro property kind mem subType refers
        exact colourless.child found mem refers
      | enumType found' => rw [found] at found'; cases found'
      | builtIn found' => rw [found] at found'; cases found'
    | enumType found =>
      cases carries' with
      | classType found' => rw [found] at found'; cases found'
      | enumType found' =>
        obtain ⟨rfl, -⟩ := Structure.enumType.inj (Option.some.inj (found.symm.trans found'))
        exact .member
      | builtIn found' => rw [found] at found'; cases found'
    | builtIn found carried =>
      cases carries' with
      | classType found' => rw [found] at found'; cases found'
      | enumType found' => rw [found] at found'; cases found'
      | builtIn found' carried' =>
        have same := Structure.builtIn.inj (Option.some.inj (found.symm.trans found'))
        have form := hasForm_of_carries carried plain (colourless.builtIn found)
        have form' := hasForm_of_carries carried' plain' (colourless.builtIn found')
        exact form.alike form' same

end

namespace Encoder

variable (encoder : Encoder)

theorem head_step_ne_close : encoder.step.toList.head? ≠ some ']' := by
  unfold step TypesModule.spaces
  rw [String.toList_ofList]
  cases encoder.indent with
  | zero => simp
  | succ count => simp [List.replicate_succ]

/-- **Literals lose no data.** If the structures of a registry have identifiers for names and no colour of
its own stands in a value of the type, then trees with plain data that are encoded alike carry the same
data, at every property and in every item. -/
theorem encode_inj (named : ∀ found ∈ encoder.registry.structures, Text.isIdentifier found.name = true)
    {typeName : String} (colourless : Colourless encoder.registry typeName) {tree tree' : Tree}
    (textual : tree.isTextual = true) (textual' : tree'.isTextual = true) {datum datum' : Datum}
    (carries : Carries encoder.registry typeName tree datum)
    (carries' : Carries encoder.registry typeName tree' datum') (plain : datum.isPlain = true)
    (plain' : datum'.isPlain = true)
    (same : (encoder.encode typeName tree).outcome = (encoder.encode typeName tree').outcome) :
    datum = datum' := by
  rw [encode, encode, value_of_carries encoder textual carries, value_of_carries encoder textual' carries',
    outcome_pure, outcome_pure] at same
  have alike := alike_of_carries named colourless carries carries' plain plain'
  have followed : (datum.layout encoder.step "").toList ++ ',' :: [] =
      (datum'.layout encoder.step "").toList ++ ',' :: [] := by
    rw [Except.ok.inj same]
  exact (layout_inj encoder.head_step_ne_close alike plain plain' "" followed).1

def handProperties : Table PropertyKind :=
  { entries := [("Owner", .string none none), ("Cards", .collection "String")] }

def handRegistry : Registry :=
  (Registry.empty.add (.builtIn "String")).add (.classType "Hand" handProperties)

def hand (note owner : String) (cards : List String) : Tree :=
  .element [
    ("Note", .list [.text note]),
    ("Owner", .list [.text owner]),
    ("Hand.Cards", .list [.element [("String", .list (cards.map .text))]])]

def handDatum (owner : String) (cards : List String) : Datum :=
  .object [("Owner", .quoted owner), ("Cards", .list (cards.map .quoted))]

theorem carries_hand (note owner card : String) (cards : List String) :
    Carries handRegistry "Hand" (hand note owner (card :: cards)) (handDatum owner (card :: cards)) := by
  have each (cards : List String) :
      CarriesAll handRegistry "String" (cards.map .text) (cards.map .quoted) := by
    induction cards with
    | nil => exact .nil
    | cons card rest ih => exact .cons (.builtIn rfl .string) ih
  refine .classType rfl (.cons (.string rfl) (.cons ?_ .nil))
  exact .collection rfl nofun (each (card :: cards))

theorem colourless_hand : Colourless handRegistry "Hand" := by
  have string (other : String) (reaches : Reaches handRegistry "String" other) : other = "String" := by
    cases reaches with
    | refl => rfl
    | step found => cases found
  intro other reaches
  cases reaches with
  | refl => exact nofun
  | step found mem refers reaches =>
    cases found
    rcases List.mem_cons.1 mem with equal | mem
    · cases equal
      rcases refers with refers | refers <;> cases refers
    · cases List.mem_singleton.1 mem
      rcases refers with refers | refers <;> cases refers
      obtain rfl := string other reaches
      intro found
      exact absurd (Structure.builtIn.inj (Option.some.inj found)) (by decide)

/-- Hands that differ in a note only are encoded alike and carry the same data; a card whose name reads like
two cards is encoded otherwise than the two. -/
theorem encode_inj_hand :
    ((Encoder.mk handRegistry 2 "Bangers").encode "Hand" (hand "mine" "Ann" ["King"])).outcome =
        ((Encoder.mk handRegistry 2 "Bangers").encode "Hand" (hand "yours" "Ann" ["King"])).outcome ∧
      (∃ datum datum', Carries handRegistry "Hand" (hand "mine" "Ann" ["King"]) datum ∧
        Carries handRegistry "Hand" (hand "yours" "Ann" ["King"]) datum' ∧ datum = datum') ∧
      ((Encoder.mk handRegistry 2 "Bangers").encode "Hand" (hand "mine" "Ann" ["King\", \"Ace"])).outcome ≠
        ((Encoder.mk handRegistry 2 "Bangers").encode "Hand" (hand "mine" "Ann" ["King", "Ace"])).outcome := by
  have named : ∀ found ∈ handRegistry.structures, Text.isIdentifier found.name = true := by
    intro found mem
    have held : handRegistry.structures = [.builtIn "String", .classType "Hand" handProperties] := rfl
    rw [held] at mem
    rcases List.mem_cons.1 mem with rfl | mem
    · decide
    · obtain rfl := List.mem_singleton.1 mem
      decide
  have same : ((Encoder.mk handRegistry 2 "Bangers").encode "Hand" (hand "mine" "Ann" ["King"])).outcome =
      ((Encoder.mk handRegistry 2 "Bangers").encode "Hand" (hand "yours" "Ann" ["King"])).outcome := by
    rw [encode, encode, value_of_carries _ rfl (carries_hand "mine" "Ann" "King" []),
      value_of_carries _ rfl (carries_hand "yours" "Ann" "King" [])]
  refine ⟨same, ⟨_, _, carries_hand "mine" "Ann" "King" [], carries_hand "yours" "Ann" "King" [], ?_⟩, ?_⟩
  · exact encode_inj ⟨handRegistry, 2, "Bangers"⟩ named colourless_hand rfl rfl
      (carries_hand "mine" "Ann" "King" []) (carries_hand "yours" "Ann" "King" []) rfl rfl same
  · intro alike
    have equal := encode_inj ⟨handRegistry, 2, "Bangers"⟩ named colourless_hand rfl rfl
      (carries_hand "mine" "Ann" "King\", \"Ace" []) (carries_hand "mine" "Ann" "King" ["Ace"])
      (by decide +kernel) rfl alike
    simp [handDatum] at equal

end Encoder

end ViewModel.Literal
