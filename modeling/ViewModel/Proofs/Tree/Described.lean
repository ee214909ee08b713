import Mathlib.Data.List.Induction
import ViewModel.Proofs.Distinct
import ViewModel.Proofs.Xml.Reader
import ViewModel.Xml.Merge

/-!
# What the tree of an element holds

The tree of an element is described without following how it is put together: under every name stand the
attribute of that name and then all children of it, in order, and nothing is left out, added or moved.

* `push_grouped`: gathering values one by one groups them under their names;
* `toTree_eq_described`: the tree of a sound element is the described one;
* `isFilled_described`: nothing in it is empty or stands alone.
-/

namespace ViewModel

/-- A text, or an element of distinct fields with at least one value each, at every depth. -/
inductive Tree.IsFilled : Tree → Prop
  | text (value : String) : IsFilled (.text value)
  | element {fields : List (String × List Tree)} : fields ≠ [] → (fields.map (·.1)).Nodup →
      (∀ field ∈ fields, field.2 ≠ []) → (∀ field ∈ fields, ∀ value ∈ field.2, IsFilled value) →
      IsFilled (.element (fields.map fun (name, values) => (name, .list values)))

namespace Xml

/-- The attributes that declare no namespace, in order. -/
def given (attributes : List (String × String)) : List (String × String) :=
  attributes.filter fun (name, _) => !isNamespace name

/-- The characters that stand in an element itself. -/
def directText : List Node → String
  | [] => ""
  | .text value :: rest => value ++ directText rest
  | .element .. :: rest => directText rest

/-- The values under a name: the attribute of the name, then the children of the name in order. -/
def valuesUnder (given : List (String × String)) (children : List (String × Tree)) (name : String) :
    List Tree :=
  ((given.lookup name).map Tree.text).toList ++ (children.filter (·.1 == name)).map (·.2)

/-- The fields of an element: its names in the order in which they first come, then its text. -/
def fieldsOf (given : List (String × String)) (children : List (String × Tree)) (text : String) :
    List (String × List Tree) :=
  ((given.map (·.1) ++ children.map (·.1)).eraseDups.map fun name => (name, valuesUnder given children name)) ++
    if text = "" then [] else [(textField, [.text text])]

/-- What an element holds: its text alone if it has neither attributes nor children, or else its fields. -/
def describe (given : List (String × String)) (children : List (String × Tree)) (text : String) : Tree :=
  if given = [] ∧ children = [] then .text text
  else .element ((fieldsOf given children text).map fun (name, values) => (name, .list values))

mutual

def Node.described : Node → Tree
  | .text value => .text (Text.trim value)
  | .element _ attributes content =>
    describe (given attributes) (describedChildren content) (Text.trim (directText content))

/-- The children of an element, each under its local name. -/
def describedChildren : List Node → List (String × Tree)
  | [] => []
  | .text _ :: rest => describedChildren rest
  | .element name attributes content :: rest =>
    (localName name, (Node.element name attributes content).described) :: describedChildren rest

end

theorem given_cons (name value : String) (rest : List (String × String)) :
    given ((name, value) :: rest) = if isNamespace name then given rest else (name, value) :: given rest := by
  cases declares : isNamespace name <;> simp [given, declares]

/-- Named values, gathered under their names. -/
def grouped (entries : List (String × Tree)) : List (String × List Tree) :=
  (entries.map (·.1)).eraseDups.map fun name => (name, (entries.filter (·.1 == name)).map (·.2))

theorem push_of_absent {fields : List (String × List Tree)} {name : String}
    (absent : name ∉ fields.map (·.1)) (value : Tree) : push fields name value = fields ++ [(name, [value])] := by
  induction fields with
  | nil => rfl
  | cons first rest ih =>
    rw [List.map_cons, List.mem_cons, not_or] at absent
    rw [push, if_neg fun same => absent.1 same.symm, ih absent.2]
    rfl

theorem push_map {names : List String} (distinct : names.Nodup) (values : String → List Tree) {name : String}
    (known : name ∈ names) (value : Tree) :
    push (names.map fun key => (key, values key)) name value =
      names.map fun key => (key, if key = name then values key ++ [value] else values key) := by
  induction names with
  | nil => cases known
  | cons first rest ih =>
    obtain ⟨absent, distinct⟩ := List.nodup_cons.1 distinct
    rw [List.map_cons, push, List.map_cons]
    by_cases same : first = name
    · subst same
      have others : rest.map (fun key => (key, if key = first then values key ++ [value] else values key)) =
          rest.map fun key => (key, values key) := by
        refine List.map_congr_left fun key mem => ?_
        have apart : key ≠ first := fun h => absent (h ▸ mem)
        rw [if_neg apart]
      rw [if_pos rfl, if_pos rfl, others]
    · have later : name ∈ rest := (List.mem_cons.1 known).resolve_left fun h => same h.symm
      rw [if_neg same, if_neg same, ih distinct later]

/-- Gathering values one by one groups them. -/
theorem push_grouped (entries : List (String × Tree)) (name : String) (value : Tree) :
    push (grouped entries) name value = grouped (entries ++ [(name, value)]) := by
  have names : (entries ++ [(name, value)]).map (·.1) = entries.map (·.1) ++ [name] := List.map_append
  by_cases known : name ∈ entries.map (·.1)
  · unfold grouped
    rw [push_map (nodup_eraseDups _) _ (List.mem_eraseDups.2 known), names, eraseDups_concat, if_pos known]
    refine List.map_congr_left fun key _ => ?_
    by_cases same : key = name
    · subst same
      simp [List.filter_append]
    · have apart : (name == key) = false := beq_false_of_ne fun h => same h.symm
      simp [List.filter_append, same, apart]
  · have absent : name ∉ (grouped entries).map (·.1) := by
      unfold grouped
      rw [List.map_map]
      exact fun mem => known (List.mem_eraseDups.1 (by simpa using mem))
    rw [push_of_absent absent]
    unfold grouped
    rw [names, eraseDups_concat, if_neg known, List.map_append]
    congr 1
    · refine List.map_congr_left fun key mem => ?_
      have apart : (name == key) = false :=
        beq_false_of_ne fun same => known (same ▸ List.mem_eraseDups.1 mem)
      simp [List.filter_append, apart]
    · have none : entries.filter (·.1 == name) = [] := by
        rw [List.filter_eq_nil_iff]
        intro entry mem same
        exact known (List.mem_map.2 ⟨entry, mem, beq_iff_eq.1 same⟩)
      simp [List.filter_append, none]

/-- Values of distinct names stand alone. -/
theorem grouped_of_nodup {entries : List (String × Tree)} (distinct : (entries.map (·.1)).Nodup) :
    grouped entries = entries.map fun (name, value) => (name, [value]) := by
  induction entries using List.reverseRecOn with
  | nil => rfl
  | append_singleton rest last ih =>
    rw [List.map_append, List.nodup_append] at distinct
    obtain ⟨others, -, apart⟩ := distinct
    have absent : last.1 ∉ (rest.map fun (name, value) => (name, [value])).map (·.1) := by
      rw [List.map_map]
      exact fun mem => apart last.1 mem last.1 List.mem_cons_self rfl
    rw [← push_grouped, ih others, push_of_absent absent, List.map_append]
    rfl

/-- An attribute as a named value. -/
def asText (field : String × String) : String × Tree := (field.1, .text field.2)

theorem foldl_attributes (entries : List (String × Tree)) (attributes : List (String × String)) :
    attributes.foldl (fun fields (name, value) =>
        if isNamespace name then fields else push fields name (.text value)) (grouped entries) =
      grouped (entries ++ (given attributes).map asText) := by
  induction attributes generalizing entries with
  | nil => rw [given, List.filter_nil, List.map_nil, List.append_nil]; rfl
  | cons first rest ih =>
    obtain ⟨name, value⟩ := first
    rw [List.foldl_cons, given_cons]
    dsimp only
    cases isNamespace name with
    | true => rw [if_pos rfl, if_pos rfl, ih]
    | false =>
      rw [if_neg Bool.false_ne_true, if_neg Bool.false_ne_true, push_grouped, ih, List.append_assoc]
      rfl

/-- The fields of attributes are those that are given, grouped. -/
theorem attributeFields_eq (attributes : List (String × String)) :
    attributeFields attributes = grouped ((given attributes).map asText) :=
  foldl_attributes [] attributes

theorem filter_asText {given : List (String × String)} (distinct : (given.map (·.1)).Nodup) (name : String) :
    ((given.map asText).filter (·.1 == name)).map (·.2) = ((given.lookup name).map Tree.text).toList := by
  induction given with
  | nil => rfl
  | cons first rest ih =>
    obtain ⟨key, value⟩ := first
    obtain ⟨absent, distinct⟩ := List.nodup_cons.1 distinct
    rw [List.map_cons, List.filter_cons, List.lookup_cons]
    by_cases same : key = name
    · subst same
      have none : (rest.map asText).filter (·.1 == key) = [] := by
        rw [List.filter_eq_nil_iff]
        intro entry mem same
        obtain ⟨field, held, rfl⟩ := List.mem_map.1 mem
        exact absent (List.mem_map.2 ⟨field, held, beq_iff_eq.1 same⟩)
      simp [asText, none]
    · have apart : (name == key) = false := beq_false_of_ne fun h => same h.symm
      rw [if_neg (by simpa [asText] using same), apart]
      exact ih distinct

/-- The fields of attributes and children, grouped. -/
theorem grouped_eq_fieldsOf {given : List (String × String)} (distinct : (given.map (·.1)).Nodup)
    (children : List (String × Tree)) : grouped (given.map asText ++ children) = fieldsOf given children "" := by
  unfold grouped fieldsOf
  have names : (given.map asText ++ children).map (·.1) = given.map (·.1) ++ children.map (·.1) := by
    rw [List.map_append, List.map_map]
    rfl
  rw [if_pos rfl, List.append_nil, names]
  refine List.map_congr_left fun name _ => ?_
  rw [List.filter_append, List.map_append, filter_asText distinct]
  rfl

theorem fieldsOf_eq_nil_iff {given : List (String × String)} {children : List (String × Tree)} {text : String} :
    fieldsOf given children text = [] ↔ (given = [] ∧ children = []) ∧ text = "" := by
  have names : (given.map (·.1) ++ children.map (·.1)).eraseDups = [] ↔ given = [] ∧ children = [] := by
    rw [List.eq_nil_iff_forall_not_mem]
    simp only [List.mem_eraseDups]
    rw [← List.eq_nil_iff_forall_not_mem, List.append_eq_nil_iff, List.map_eq_nil_iff, List.map_eq_nil_iff]
  unfold fieldsOf
  rw [List.append_eq_nil_iff, List.map_eq_nil_iff, names]
  by_cases blank : text = "" <;> simp [blank]

theorem names_fieldsOf (given : List (String × String)) (children : List (String × Tree)) (text : String) :
    (fieldsOf given children text).map (·.1) =
      (given.map (·.1) ++ children.map (·.1)).eraseDups ++ if text = "" then [] else [textField] := by
  unfold fieldsOf
  rw [List.map_append, List.map_map, apply_ite (List.map _)]
  congr 1
  exact List.map_id _

theorem mem_fieldsOf {given : List (String × String)} {children : List (String × Tree)} {text : String}
    {field : String × List Tree} (h : field ∈ fieldsOf given children text) :
    (field.1 ∈ given.map (·.1) ++ children.map (·.1) ∧ field.2 = valuesUnder given children field.1) ∨
      field.2 = [.text text] := by
  rcases List.mem_append.1 h with mem | mem
  · obtain ⟨name, listed, rfl⟩ := List.mem_map.1 mem
    exact .inl ⟨List.mem_eraseDups.1 listed, rfl⟩
  · split at mem
    · cases mem
    · rw [List.mem_singleton.1 mem]
      exact .inr rfl

/-- Under every name of an attribute or a child there is a value. -/
theorem valuesUnder_ne_nil {given : List (String × String)} {children : List (String × Tree)} {name : String}
    (h : name ∈ given.map (·.1) ++ children.map (·.1)) : valuesUnder given children name ≠ [] := by
  unfold valuesUnder
  rw [ne_eq, List.append_eq_nil_iff, not_and_or]
  rcases List.mem_append.1 h with mem | mem
  · left
    obtain ⟨field, held, rfl⟩ := List.mem_map.1 mem
    intro none
    have absent : given.lookup field.1 = Option.none := by simpa using none
    exact absurd rfl (bne_iff_ne.1 (List.lookup_eq_none_iff.1 absent field held))
  · right
    obtain ⟨child, held, rfl⟩ := List.mem_map.1 mem
    intro none
    have inside : child ∈ children.filter (·.1 == child.1) := List.mem_filter.2 ⟨held, beq_self_eq_true _⟩
    rw [List.map_eq_nil_iff.1 none] at inside
    cases inside

theorem isFilled_of_mem_valuesUnder {given : List (String × String)} {children : List (String × Tree)}
    (filled : ∀ child ∈ children, child.2.IsFilled) {name : String} {value : Tree}
    (h : value ∈ valuesUnder given children name) : value.IsFilled := by
  rcases List.mem_append.1 h with mem | mem
  · obtain ⟨text, -, rfl⟩ := Option.map_eq_some_iff.1 (Option.mem_toList.1 mem)
    exact .text text
  · obtain ⟨child, held, rfl⟩ := List.mem_map.1 mem
    exact filled child (List.mem_filter.1 held).1

/-- Attributes of distinct names and children, none of which has the name of the field for the text. -/
structure Apart (given : List (String × String)) (children : List (String × Tree)) : Prop where
  distinct : (given.map (·.1)).Nodup
  textless : textField ∉ given.map (·.1) ++ children.map (·.1)

namespace Apart

variable {given : List (String × String)} {children : List (String × Tree)} (apart : Apart given children)
include apart

/-- Putting the grouped values and the text together gives the described element. -/
theorem treeOf_grouped (text : String) :
    treeOf (grouped (given.map asText ++ children)) text = describe given children text := by
  rw [grouped_eq_fieldsOf apart.distinct]
  unfold treeOf describe
  by_cases empty : given = [] ∧ children = []
  · obtain ⟨rfl, rfl⟩ := empty
    rfl
  · have filled : (fieldsOf given children "").isEmpty = false :=
      List.isEmpty_eq_false_iff.2 fun none => empty (fieldsOf_eq_nil_iff.1 none).1
    rw [if_neg empty, filled, if_neg Bool.false_ne_true]
    by_cases blank : text = ""
    · subst blank
      rfl
    · have shown : text.isEmpty = false := by simpa using blank
      have fields : fieldsOf given children text = fieldsOf given children "" ++ [(textField, [.text text])] := by
        unfold fieldsOf
        rw [if_neg blank, if_pos rfl, List.append_nil]
      have absent : textField ∉ (fieldsOf given children "").map (·.1) := by
        rw [names_fieldsOf, if_pos rfl, List.append_nil, List.mem_eraseDups]
        exact apart.textless
      rw [shown, if_neg Bool.false_ne_true, fields, push_of_absent absent]

/-- Filled children fill the element. -/
theorem isFilled_describe (filled : ∀ child ∈ children, child.2.IsFilled) (text : String) :
    (describe given children text).IsFilled := by
  unfold describe
  by_cases empty : given = [] ∧ children = []
  · rw [if_pos empty]
    exact .text text
  · rw [if_neg empty]
    refine .element (fun none => empty (fieldsOf_eq_nil_iff.1 none).1) ?_ ?_ ?_
    · rw [names_fieldsOf, List.nodup_append]
      refine ⟨nodup_eraseDups _, by split <;> simp, ?_⟩
      rintro name listed other mem rfl
      split at mem
      · cases mem
      · rw [List.mem_singleton] at mem
        exact apart.textless (mem ▸ List.mem_eraseDups.1 listed)
    · intro field mem
      rcases mem_fieldsOf mem with ⟨listed, same⟩ | same <;> rw [same]
      · exact valuesUnder_ne_nil listed
      · exact List.cons_ne_nil _ _
    · intro field mem value held
      rcases mem_fieldsOf mem with ⟨-, same⟩ | same <;> rw [same] at held
      · exact isFilled_of_mem_valuesUnder filled held
      · rw [List.mem_singleton.1 held]
        exact .text text

end Apart

theorem IsName.localName {name : String} (h : IsName name) : IsName (localName name) := by
  intro c mem
  rw [Xml.localName, Text.lastSegment, String.toList_ofList] at mem
  exact h c (Text.mem_of_mem_afterLast mem)

/-- The mark that opens the name of the field for the text may not stand in a name. -/
theorem IsName.ne_textField {name : String} (h : IsName name) : name ≠ textField := by
  rintro rfl
  exact absurd (h '#' (by decide)) (by decide)

theorem exists_of_mem_describedChildren {content : List Node} {child : String × Tree}
    (h : child ∈ describedChildren content) :
    ∃ name attributes inner, Node.element name attributes inner ∈ content ∧
      child = (localName name, (Node.element name attributes inner).described) := by
  induction content with
  | nil => rw [describedChildren] at h; cases h
  | cons first rest ih =>
    have later (h : child ∈ describedChildren rest) : ∃ name attributes inner,
        Node.element name attributes inner ∈ first :: rest ∧
          child = (localName name, (Node.element name attributes inner).described) := by
      obtain ⟨name, attributes, inner, mem, same⟩ := ih h
      exact ⟨name, attributes, inner, List.mem_cons_of_mem _ mem, same⟩
    cases first with
    | text value =>
      rw [describedChildren] at h
      exact later h
    | element name attributes inner =>
      rw [describedChildren] at h
      rcases List.mem_cons.1 h with rfl | h
      · exact ⟨name, attributes, inner, List.mem_cons_self, rfl⟩
      · exact later h

theorem nodup_given {attributes : List (String × String)} (sound : SoundAttributes attributes) :
    ((given attributes).map (·.1)).Nodup :=
  (List.filter_sublist.map _).nodup sound.distinct

/-- In a sound element no name is that of the field for the text. -/
theorem apart_of_sound {attributes : List (String × String)} {content : List Node}
    (sound : SoundAttributes attributes) (inner : ∀ child ∈ content, child.IsSound) :
    Apart (given attributes) (describedChildren content) := by
  constructor
  · exact nodup_given sound
  · intro mem
    rcases List.mem_append.1 mem with mem | mem
    · obtain ⟨field, held, same⟩ := List.mem_map.1 mem
      exact (sound.names field (List.mem_filter.1 held).1).ne_textField same
    · obtain ⟨child, held, same⟩ := List.mem_map.1 mem
      obtain ⟨name, attributes, content, mem, rfl⟩ := exists_of_mem_describedChildren held
      cases inner _ mem with
      | element named => exact named.localName.ne_textField same

mutual

/-- The tree of a sound element is the described one. -/
theorem toTree_eq_described {node : Node} (sound : node.IsSound) : node.toTree = node.described := by
  cases sound with
  | text value => rw [Node.toTree, Node.described]
  | @element name attributes content _ attributed inner =>
    have merged := mergeContent_eq inner ((given attributes).map asText) ""
    rw [Node.toTree, Node.described, attributeFields_eq, merged]
    dsimp only
    rw [(apart_of_sound attributed inner).treeOf_grouped, String.empty_append]

theorem mergeContent_eq {content : List Node} (sound : ∀ child ∈ content, child.IsSound)
    (entries : List (String × Tree)) (text : String) :
    mergeContent (grouped entries) text content =
      (grouped (entries ++ describedChildren content), text ++ directText content) := by
  cases content with
  | nil => rw [mergeContent, describedChildren, directText, List.append_nil, String.append_empty]
  | cons first rest =>
    obtain ⟨here, there⟩ := List.forall_mem_cons.1 sound
    cases first with
    | text value =>
      rw [mergeContent, mergeContent_eq there, describedChildren, directText, String.append_assoc]
    | element name attributes inner =>
      rw [mergeContent, toTree_eq_described here, push_grouped, mergeContent_eq there, describedChildren,
        directText, List.append_assoc]
      rfl

end

mutual

/-- The described tree of a sound element is filled. -/
theorem isFilled_described {node : Node} (sound : node.IsSound) : node.described.IsFilled := by
  cases sound with
  | text value =>
    rw [Node.described]
    exact .text _
  | @element name attributes content _ attributed inner =>
    rw [Node.described]
    exact (apart_of_sound attributed inner).isFilled_describe (isFilled_describedChildren inner) _

theorem isFilled_describedChildren {content : List Node} (sound : ∀ child ∈ content, child.IsSound) :
    ∀ child ∈ describedChildren content, child.2.IsFilled := by
  cases content with
  | nil =>
    rw [describedChildren]
    exact List.forall_mem_nil _
  | cons first rest =>
    obtain ⟨here, there⟩ := List.forall_mem_cons.1 sound
    cases first with
    | text value =>
      rw [describedChildren]
      exact isFilled_describedChildren there
    | element name attributes inner =>
      rw [describedChildren]
      exact List.forall_mem_cons.2 ⟨isFilled_described here, isFilled_describedChildren there⟩

end

end Xml

end ViewModel
