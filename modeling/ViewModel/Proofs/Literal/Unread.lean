import Mathlib.Logic.Relation
import ViewModel.Proofs.Literal.Agreement

/-!
# Changes that encoding does not see

What no type declares may be added, taken away, reordered or repeated anywhere in a tree: fields of an
object, whatever stands beside the children in a wrapper, further wrappers, and all of this again in the
children.

* `Rearranges`, `Alters`, `Swaps`: the changes that can be made to one element;
* `Edit`: such a change at a place that the type does not declare, at any depth;
* `agrees_refl`, `agrees_of_edit`: trees before and after it agree;
* `encode_reads_declared`: trees that agree have the same literal, and so have trees that differ by edits.
-/

namespace ViewModel.Literal

open Schema Attempt

/-- The same fields in another order, one field more that is not read, or text in place of no fields. -/
inductive Rearranges (reads : List String) : Tree → Tree → Prop
  | order {fields others} : fields.Perm others → (fields.map (·.1)).Nodup →
      Rearranges reads (.element fields) (.element others)
  | unread {before after name value} : name ∉ reads →
      Rearranges reads (.element (before ++ (name, value) :: after)) (.element (before ++ after))
  | text {content} : Rearranges reads (.text content) (.element [])

/-- A rearrangement, or other values after the first under some name. -/
inductive Alters (reads : List String) : Tree → Tree → Prop
  | rearranged {tree other} : Rearranges reads tree other → Alters reads tree other
  | repeated {before after name first rest others} :
      Alters reads (.element (before ++ (name, .list (first :: rest)) :: after))
        (.element (before ++ (name, .list (first :: others)) :: after))

/-- The trees differ in one child under the name. -/
inductive Swaps (name : String) (child child' : Tree) : Tree → Tree → Prop
  | mk {before after earlier later} :
      Swaps name child child' (.element (before ++ (name, .list (earlier ++ child :: later)) :: after))
        (.element (before ++ (name, .list (earlier ++ child' :: later)) :: after))

/-- The names under which an object of a class is read. -/
def declaredReads (name : String) (properties : Table PropertyKind) : List String :=
  properties.names ++ properties.names.map (name ++ "." ++ ·)

/-- The trees are objects of the class of that name and differ within a wrapper of a property of the kind,
whose name is no property's own. -/
def InWrapper (registry : Registry) (typeName : String) (kind : PropertyKind) (wrapper wrapper' : Tree)
    (tree other : Tree) : Prop :=
  ∃ name properties property, registry.lookup? typeName = some (.classType name properties) ∧
    (property, kind) ∈ properties.entries ∧ name ++ "." ++ property ∉ properties.names ∧
    Swaps (name ++ "." ++ property) wrapper wrapper' tree other

/-- One change to a tree of the named type at a place that the type does not declare. -/
inductive Edit (registry : Registry) : String → Tree → Tree → Prop
  | object {typeName name properties tree other} :
      registry.lookup? typeName = some (.classType name properties) →
      Alters (declaredReads name properties) tree other → Edit registry typeName tree other
  | builtIn {typeName name field tree other} : registry.lookup? typeName = some (.builtIn name) →
      recordField? name = some field → Alters [field] tree other → Edit registry typeName tree other
  | wrapper {typeName kind tag wrapper wrapper' tree other} :
      InWrapper registry typeName kind wrapper wrapper' tree other → childTag? kind = some tag →
      Rearranges [tag] wrapper wrapper' → Edit registry typeName tree other
  | record {typeName kind tag field wrapper wrapper' child child' tree other} :
      InWrapper registry typeName kind wrapper wrapper' tree other →
      kind.reference? = none → childTag? kind = some tag → recordField? tag = some field →
      Swaps tag child child' wrapper wrapper' → Alters [field] child child' →
      Edit registry typeName tree other
  | child {typeName kind subType wrapper wrapper' child child' tree other} :
      InWrapper registry typeName kind wrapper wrapper' tree other →
      kind = .object subType ∨ kind = .collection subType →
      Swaps (dataTag subType) child child' wrapper wrapper' → Edit registry (dataTag subType) child child' →
      Edit registry typeName tree other

/-- Textual trees that differ by edits, made or undone one after the other. -/
def Edited (registry : Registry) (typeName : String) : Tree → Tree → Prop :=
  Relation.EqvGen fun tree other =>
    tree.isTextual = true ∧ other.isTextual = true ∧ Edit registry typeName tree other

section

variable {reads : List String} {name key : String} {tree other child child' : Tree}

/-- A rearrangement leaves what is read. -/
theorem Rearranges.under_eq (h : Rearranges reads tree other) (read : key ∈ reads) :
    tree.under key = other.under key := by
  have field : tree.field? key = other.field? key := by
    cases h with
    | @order fields others perm distinct =>
      have distinct' : (others.map (·.1)).Nodup := (perm.map _).nodup_iff.1 distinct
      apply Option.ext
      intro value
      have found := @Table.get?_eq_some_iff _ ⟨fields, distinct⟩ key value
      have found' := @Table.get?_eq_some_iff _ ⟨others, distinct'⟩ key value
      exact found.trans (perm.mem_iff.trans found'.symm)
    | @unread before after name value absent =>
      have apart : (key == name) = false := beq_false_of_ne fun same => absent (same ▸ read)
      simp only [Tree.field?, Tree.fields, List.lookup_append, List.lookup_cons, apart]
    | text => rfl
  rw [Tree.under, Tree.under, field]

/-- An alteration leaves the first values of what is read. -/
theorem Alters.first?_eq (h : Alters reads tree other) (read : key ∈ reads) :
    tree.first? key = other.first? key := by
  cases h with
  | rearranged h => rw [Tree.first?, Tree.first?, h.under_eq read]
  | @repeated before after name first rest others =>
    simp only [Tree.first?, Tree.under, Tree.field?, Tree.fields, List.lookup_append, List.lookup_cons]
    cases before.lookup key with
    | some value => rfl
    | none =>
      by_cases same : (key == name) = true
      · simp [same]
      · simp [same]

theorem Swaps.under_eq_of_ne (h : Swaps name child child' tree other) (ne : key ≠ name) :
    tree.under key = other.under key := by
  cases h
  have apart : (key == name) = false := beq_false_of_ne ne
  simp only [Tree.under, Tree.field?, Tree.fields, List.lookup_append, List.lookup_cons, apart]

/-- A swap leaves the children under the name, or puts one in the place of another. -/
theorem Swaps.under_eq_or (h : Swaps name child child' tree other) :
    tree.under name = other.under name ∨
      ∃ earlier later, tree.under name = earlier ++ child :: later ∧
        other.under name = earlier ++ child' :: later := by
  cases h with | @mk before after earlier later => ?_
  simp only [Tree.under, Tree.field?, Tree.fields, List.lookup_append, List.lookup_cons, beq_self_eq_true]
  cases before.lookup name with
  | some value => exact .inl rfl
  | none => exact .inr ⟨earlier, later, rfl, rfl⟩

/-- What holds of every child and itself, and of the swapped children, holds one by one. -/
theorem Swaps.forall₂ (h : Swaps name child child' tree other) (related : Tree → Tree → Prop)
    (refl : ∀ child, related child child) (swapped : related child child') :
    List.Forall₂ related (tree.under name) (other.under name) := by
  have same (children : List Tree) : List.Forall₂ related children children :=
    List.forall₂_same.2 fun child _ => refl child
  rcases h.under_eq_or with equal | ⟨earlier, later, held, held'⟩
  · rw [equal]
    exact same _
  · rw [held, held']
    exact List.rel_append (same earlier) (.cons swapped (same later))

end

section

variable (registry : Registry)

/-- The children agree on what is read of a child in the wrapper of a property of the kind. -/
def AgreesChild : PropertyKind → Tree → Tree → Prop
  | .object subType, child, child' | .collection subType, child, child' =>
    Agrees registry (dataTag subType) child child'
  | .image _, child, child' => child.first? "UriSource" = child'.first? "UriSource"
  | .brush, child, child' => child.first? "Color" = child'.first? "Color"
  | .command, child, child' => child.first? "Message" = child'.first? "Message"
  | _, _, _ => True

variable {registry} {name property : String} {kind : PropertyKind} {tree other : Tree}

/-- Lists whose items are related one by one start alike. -/
theorem head?_of_forall₂ {related : α → β → Prop} {items : List α} {others : List β}
    (h : List.Forall₂ related items others) :
    items.head? = none ∧ others.head? = none ∨
      ∃ item other, items.head? = some item ∧ others.head? = some other ∧ related item other := by
  cases h with
  | nil => exact .inl ⟨rfl, rfl⟩
  | cons first _ => exact .inr ⟨_, _, rfl, rfl, first⟩

/-- Objects agree on a property if they hold the same first value, and children that agree. -/
theorem agreesAt_of_children (given : tree.first? property = other.first? property)
    (presence : (tree.first? (name ++ "." ++ property)).isSome =
      (other.first? (name ++ "." ++ property)).isSome)
    (children : ∀ tag, childTag? kind = some tag →
      List.Forall₂ (AgreesChild registry kind) (tree.wrapped (name ++ "." ++ property) tag)
        (other.wrapped (name ++ "." ++ property) tag)) :
    AgreesAt registry name property kind tree other := by
  cases kind with
  | string | number | boolean | enum | font => exact .scalar trivial given
  | image source =>
    refine .image given fun _ => ?_
    rcases head?_of_forall₂ (children _ rfl) with ⟨none, none'⟩ | ⟨child, child', some, some', same⟩
    · rw [none, none']
    · rw [some, some']
      exact same
  | brush =>
    refine .brush given fun _ => ?_
    rcases head?_of_forall₂ (children _ rfl) with ⟨none, none'⟩ | ⟨child, child', some, some', same⟩
    · rw [none, none']
    · rw [some, some']
      exact same
  | command =>
    refine .command presence ?_
    rcases head?_of_forall₂ (children _ rfl) with ⟨none, none'⟩ | ⟨child, child', some, some', same⟩
    · rw [none, none']
    · rw [some, some']
      exact congrArg Option.some same
  | object subType =>
    rcases head?_of_forall₂ (children _ rfl) with ⟨none, none'⟩ | ⟨child, child', some, some', agrees⟩
    · exact .objectless none none'
    · exact .object some some' agrees
  | collection subType =>
    obtain ⟨length, agrees⟩ := List.forall₂_iff_zip.1 (children _ rfl)
    exact .collection length fun child child' mem => agrees mem

/-- Every tree agrees with itself, at every type. -/
theorem agrees_refl (registry : Registry) (typeName : String) (tree : Tree) :
    Agrees registry typeName tree tree := by
  induction weight : tree.weight using Nat.strongRecOn generalizing tree typeName with
  | ind bound ih =>
    cases found : registry.lookup? typeName with
    | none => exact .unknown found
    | some referred =>
      cases referred with
      | enumType name items => exact .enumType found
      | builtIn name => exact .builtIn found .same
      | classType name properties =>
        refine .classType found fun property kind _ => agreesAt_of_children rfl rfl fun tag _ => ?_
        refine List.forall₂_same.2 fun child mem => ?_
        have lighter := Tree.weight_lt_of_mem_wrapped mem
        cases kind with
        | object subType => exact ih child.weight (weight ▸ lighter) _ child rfl
        | collection subType => exact ih child.weight (weight ▸ lighter) _ child rfl
        | _ => trivial

theorem agreesChild_refl (kind : PropertyKind) (child : Tree) : AgreesChild registry kind child child := by
  cases kind with
  | object subType => exact agrees_refl registry _ child
  | collection subType => exact agrees_refl registry _ child
  | _ => trivial

/-- Objects agree on a property if they have the same first value and the same first wrapper. -/
theorem agreesAt_of_first? (given : tree.first? property = other.first? property)
    (wrapper : tree.first? (name ++ "." ++ property) = other.first? (name ++ "." ++ property)) :
    AgreesAt registry name property kind tree other := by
  refine agreesAt_of_children given (by rw [wrapper]) fun tag _ => ?_
  rw [Tree.wrapped, Tree.wrapped, wrapper]
  exact List.forall₂_same.2 fun child _ => agreesChild_refl kind child

theorem agrees_of_alters {typeName : String} {properties : Table PropertyKind}
    (found : registry.lookup? typeName = some (.classType name properties))
    (alters : Alters (declaredReads name properties) tree other) : Agrees registry typeName tree other := by
  refine .classType found fun property kind mem => ?_
  have listed : property ∈ properties.names := List.mem_map.2 ⟨_, mem, rfl⟩
  apply agreesAt_of_first?
  · exact alters.first?_eq (List.mem_append_left _ listed)
  · exact alters.first?_eq (List.mem_append_right _ (List.mem_map.2 ⟨property, listed, rfl⟩))

/-- Objects that differ within a wrapper agree if the children in the wrapper do. -/
theorem agrees_of_inWrapper {typeName : String} {wrapper wrapper' : Tree}
    (inside : InWrapper registry typeName kind wrapper wrapper' tree other)
    (children : ∀ tag, childTag? kind = some tag →
      List.Forall₂ (AgreesChild registry kind) (wrapper.under tag) (wrapper'.under tag)) :
    Agrees registry typeName tree other := by
  obtain ⟨name, properties, changed, found, mem, apart, swaps⟩ := inside
  refine .classType found fun property kind' mem' => ?_
  have listed : property ∈ properties.names := List.mem_map.2 ⟨_, mem', rfl⟩
  have given : tree.first? property = other.first? property := by
    rw [Tree.first?, Tree.first?, swaps.under_eq_of_ne fun same => apart (same ▸ listed)]
  by_cases same : property = changed
  · subst same
    obtain rfl : kind' = kind := by
      have one := Table.get?_eq_some_iff.2 mem
      have two := Table.get?_eq_some_iff.2 mem'
      exact Option.some.inj (two.symm.trans one)
    have heads := head?_of_forall₂ (swaps.forall₂ (fun first first' =>
      ∀ tag, childTag? kind' = some tag →
        List.Forall₂ (AgreesChild registry kind') (first.under tag) (first'.under tag))
      (fun first tag _ => List.forall₂_same.2 fun child _ => agreesChild_refl kind' child) children)
    rcases heads with ⟨none, none'⟩ | ⟨first, first', some, some', agrees⟩
    · exact agreesAt_of_first? given (by rw [Tree.first?, Tree.first?, none, none'])
    · have held : tree.first? (name ++ "." ++ property) = .some first := some
      have held' : other.first? (name ++ "." ++ property) = .some first' := some'
      refine agreesAt_of_children given (by rw [held, held']; rfl) fun tag isTag => ?_
      rw [Tree.wrapped, Tree.wrapped, held, held']
      exact agrees tag isTag
  · have elsewhere : name ++ "." ++ property ≠ name ++ "." ++ changed :=
      fun equal => same ((String.append_right_inj _).1 equal)
    refine agreesAt_of_first? given ?_
    rw [Tree.first?, Tree.first?, swaps.under_eq_of_ne elsewhere]

/-- **The trees before and after an edit agree.** -/
theorem agrees_of_edit {typeName : String} (edit : Edit registry typeName tree other) :
    Agrees registry typeName tree other := by
  induction edit with
  | object found alters => exact agrees_of_alters found alters
  | builtIn found field alters =>
    exact .builtIn found (.record field (alters.first?_eq (List.mem_singleton.2 rfl)))
  | @wrapper _ kind _ _ _ _ _ inside isTag rearranges =>
    refine agrees_of_inWrapper inside fun tag isTag' => ?_
    obtain rfl := Option.some.inj (isTag.symm.trans isTag')
    rw [rearranges.under_eq (List.mem_singleton.2 rfl)]
    exact List.forall₂_same.2 fun child _ => agreesChild_refl kind child
  | @record _ kind _ field _ _ child child' _ _ inside unreferring isTag isField swaps alters =>
    refine agrees_of_inWrapper inside fun tag isTag' => ?_
    obtain rfl := Option.some.inj (isTag.symm.trans isTag')
    have same : child.first? field = child'.first? field := alters.first?_eq (List.mem_singleton.2 rfl)
    refine swaps.forall₂ _ (fun child => agreesChild_refl kind child) ?_
    cases kind with
    | object | enum | collection => cases unreferring
    | image | brush | command =>
      cases isTag
      cases isField
      exact same
    | _ => trivial
  | @child _ kind subType _ _ child child' _ _ inside isKind swaps _ agrees =>
    refine agrees_of_inWrapper inside fun tag isTag => ?_
    rcases isKind with rfl | rfl
    all_goals
      cases isTag
      exact swaps.forall₂ _ (fun child => agreesChild_refl _ child) agrees

end

namespace Encoder

variable (encoder : Encoder)

/-- Trees that differ by edits are encoded alike. -/
theorem outcome_eq_of_edited {typeName : String} {tree other : Tree}
    (edited : Edited encoder.registry typeName tree other) :
    (encoder.encode typeName tree).outcome = (encoder.encode typeName other).outcome := by
  induction edited with
  | rel tree other h =>
    obtain ⟨textual, textual', edit⟩ := h
    exact encoder.value_congr (agrees_of_edit edit) textual textual' ""
  | refl tree => rfl
  | symm tree other _ ih => exact ih.symm
  | trans tree middle other _ _ before after => exact before.trans after

/-- **Encoding reads only what the schema declares.** Trees that agree on what their type declares, at
every depth, have the same literal or the same error; so have trees that differ by edits. -/
theorem encode_reads_declared (typeName : String) {tree other : Tree} (textual : tree.isTextual = true)
    (textual' : other.isTextual = true) :
    (Agrees encoder.registry typeName tree other →
      (encoder.encode typeName tree).outcome = (encoder.encode typeName other).outcome) ∧
    (Edited encoder.registry typeName tree other →
      (encoder.encode typeName tree).outcome = (encoder.encode typeName other).outcome) := by
  constructor
  · intro agrees
    exact encoder.value_congr agrees textual textual' ""
  · intro edited
    exact encoder.outcome_eq_of_edited edited

/-- The properties of a card with a title and another card. -/
def titledProperties : Table PropertyKind :=
  { entries := [("Title", .string none none), ("Next", .object "Card")] }

def titledRegistry : Registry := Registry.empty.add (.classType "Card" titledProperties)

/-- A card that holds another one, with more fields in front of its own, in the inner card, and beside the
inner card in its wrapper. -/
def cardAround (front inner beside : List (String × Tree)) : Tree :=
  .element (front ++ [
    ("Title", .list [.text "Ace"]),
    ("Card.Next", .list [
      .element (("Card", .list [.element (("Title", .list [.text "King"]) :: inner)]) :: beside)])])

/-- An attribute of another namespace, stray text and a foreign element, one at each place, are not seen:
the trees agree, differ by edits, and are encoded alike. -/
theorem encode_reads_declared_cardAround :
    Agrees titledRegistry "Card" (cardAround [("x:Title", .list [.text "Jack"])]
        [("#text", .list [.text "stray"])] [("Foreign", .list [.text ""])]) (cardAround [] [] []) ∧
      Edited titledRegistry "Card" (cardAround [("x:Title", .list [.text "Jack"])]
        [("#text", .list [.text "stray"])] [("Foreign", .list [.text ""])]) (cardAround [] [] []) ∧
      ((Encoder.mk titledRegistry 2 "Bangers").encode "Card" (cardAround [("x:Title", .list [.text "Jack"])]
        [("#text", .list [.text "stray"])] [("Foreign", .list [.text ""])])).outcome =
        ((Encoder.mk titledRegistry 2 "Bangers").encode "Card" (cardAround [] [] [])).outcome := by
  have found : titledRegistry.lookup? "Card" = some (.classType "Card" titledProperties) := rfl
  have inside (inner beside inner' beside' : List (String × Tree)) :
      InWrapper titledRegistry "Card" (.object "Card")
        (.element (("Card", .list [.element (("Title", .list [.text "King"]) :: inner)]) :: beside))
        (.element (("Card", .list [.element (("Title", .list [.text "King"]) :: inner')]) :: beside'))
        (cardAround [] inner beside) (cardAround [] inner' beside') :=
    ⟨"Card", titledProperties, "Next", found, .tail _ (.head _), by decide,
      @Swaps.mk _ _ _ [("Title", .list [.text "Ace"])] [] [] []⟩
  have prefixed (inner beside : List (String × Tree)) : Edit titledRegistry "Card"
      (cardAround [("x:Title", .list [.text "Jack"])] inner beside) (cardAround [] inner beside) :=
    .object found (.rearranged (@Rearranges.unread _ [] _ "x:Title" _ (by decide)))
  have foreign (inner : List (String × Tree)) : Edit titledRegistry "Card"
      (cardAround [] inner [("Foreign", .list [.text ""])]) (cardAround [] inner []) :=
    .wrapper (inside inner _ inner []) rfl (@Rearranges.unread _ [_] [] "Foreign" _ (by decide))
  have stray : Edit titledRegistry "Card" (cardAround [] [("#text", .list [.text "stray"])] [])
      (cardAround [] [] []) :=
    .child (inside _ [] [] []) (.inl rfl) (@Swaps.mk _ _ _ [] [] [] [])
      (.object found (.rearranged (@Rearranges.unread _ [_] [] "#text" _ (by decide))))
  have edited : Edited titledRegistry "Card" (cardAround [("x:Title", .list [.text "Jack"])]
      [("#text", .list [.text "stray"])] [("Foreign", .list [.text ""])]) (cardAround [] [] []) := by
    refine .trans _ _ _ (.rel _ _ ⟨rfl, rfl, prefixed _ _⟩) ?_
    refine .trans _ _ _ (.rel _ _ ⟨rfl, rfl, foreign _⟩) ?_
    exact .rel _ _ ⟨rfl, rfl, stray⟩
  have declared (child child' : Tree) (title : child.first? "Title" = child'.first? "Title")
      (next : AgreesAt titledRegistry "Card" "Next" (.object "Card") child child') :
      Agrees titledRegistry "Card" child child' := by
    refine .classType found fun property kind mem => ?_
    rcases List.mem_cons.1 mem with equal | mem
    · cases equal
      exact .scalar trivial title
    · cases List.mem_singleton.1 mem
      exact next
  have agrees : Agrees titledRegistry "Card" (cardAround [("x:Title", .list [.text "Jack"])]
      [("#text", .list [.text "stray"])] [("Foreign", .list [.text ""])]) (cardAround [] [] []) :=
    declared _ _ rfl (.object rfl rfl (declared _ _ rfl (.objectless rfl rfl)))
  obtain ⟨alike, -⟩ := encode_reads_declared ⟨titledRegistry, 2, "Bangers"⟩ "Card"
    (show (cardAround [("x:Title", .list [.text "Jack"])] [("#text", .list [.text "stray"])]
      [("Foreign", .list [.text ""])]).isTextual = true from rfl)
    (show (cardAround [] [] []).isTextual = true from rfl)
  exact ⟨agrees, edited, alike agrees⟩

end Encoder

end ViewModel.Literal
