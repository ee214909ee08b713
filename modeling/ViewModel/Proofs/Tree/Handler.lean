import ViewModel.Proofs.Tree.Described
import ViewModel.Tree.Normal

/-!
# Trees from events

A parser tells a document as events, and the elements are put together on the way: the fields and the
characters of an element are kept on a stack while another one inside it is read. A second value of a name
makes a list of both, an element without anything is nothing at all, and only a pass over the whole then
puts every value into a list. What comes of it is the same tree.

* `normalizeFields_store`: storing a value in fields that are not normal yet pushes it onto the normal ones;
* `run_tells`: the events of some content merge it into the fields and the text of the element around it;
* `ofXml?_eq_described`: the tree of a document, the described one, and the one that its events make.
-/

namespace ViewModel.Xml

/-- What a parser tells of a document. -/
inductive Event
  | start (name : String) (attributes : List (String × String))
  | characters (text : String)
  | finish (name : String)

/-- The events tell the content of an element. Character data comes in any number of pieces. -/
inductive Tells : List Node → List Event → Prop
  | nil : Tells [] []
  | text {pieces : List String} {value : String} {rest : List Node} {events : List Event} :
      String.join pieces = value → Tells rest events →
      Tells (.text value :: rest) (pieces.map .characters ++ events)
  | element {name : String} {attributes : List (String × String)} {content rest : List Node}
      {inner events : List Event} : Tells content inner → Tells rest events →
      Tells (.element name attributes content :: rest)
        (.start name attributes :: (inner ++ .finish name :: events))

/-- The name that a key is stored under: that of an attribute after its mark, unless it declares a namespace,
and any other without its prefix. -/
def storedName? (key : String) : Option String :=
  match key.toList with
  | '@' :: name => if isNamespace (String.ofList name) then none else some (String.ofList name)
  | _ => some (localName key)

def attributeKey (name : String) : String := String.ofList ('@' :: name.toList)

/-- The values that a value stands for. -/
def asList : Tree → List Tree
  | .list items => items
  | value => [value]

/-- The fields with one more value of that name, in a list with the ones that are there. -/
def put (fields : List (String × Tree)) (name : String) (value : Tree) : List (String × Tree) :=
  match fields with
  | [] => [(name, value)]
  | (key, held) :: rest =>
    if key = name then (key, .list (asList held ++ [value])) :: rest else (key, held) :: put rest name value

/-- The fields with a value stored under a key. -/
def store (fields : List (String × Tree)) (key : String) (value : Tree) : List (String × Tree) :=
  match storedName? key with
  | none => fields
  | some name => put fields name value

/-- The characters of an element without blanks around them, if it has any; an empty text is kept. -/
def stripped? (data : List String) : Option String :=
  if data = [] then none
  else if String.join data = "" then some ""
  else if Text.trim (String.join data) = "" then none
  else some (Text.trim (String.join data))

/-- The value of an element, from its fields and its characters. -/
def valueOf (fields : List (String × Tree)) (data : List String) : Tree :=
  if fields.isEmpty then ((stripped? data).map Tree.text).getD .nothing
  else
    match stripped? data with
    | none | some "" => .element fields
    | some text => .element (store fields textField (.text text))

/-- The fields and the characters read of the innermost open element, and those of the elements around it. -/
structure Handler where
  fields : List (String × Tree) := []
  data : List String := []
  around : List (List (String × Tree) × List String) := []

namespace Handler

def after (handler : Handler) : Event → Handler
  | .start _ attributes =>
    { fields := attributes.filterMap fun (name, value) =>
        (storedName? (attributeKey name)).map fun name => (name, .text value)
      around := (handler.fields, handler.data) :: handler.around }
  | .characters text => { handler with data := handler.data ++ [text] }
  | .finish name =>
    match handler.around with
    | [] => handler
    | (fields, data) :: around =>
      { fields := store fields name (valueOf handler.fields handler.data), data, around }

def run (handler : Handler) (events : List Event) : Handler := events.foldl after handler

def document? (handler : Handler) : Option (String × Tree) :=
  handler.fields.head?.map fun (tag, value) => (tag, value.normalize)

end Handler

/-- Fields of values, each in a list. -/
def listed (fields : List (String × List Tree)) : List (String × Tree) :=
  fields.map fun (name, values) => (name, .list values)

/-- Every value is made normal, in a list. -/
theorem normalizeFields_cons (name : String) (value : Tree) (rest : List (String × Tree)) :
    Tree.normalizeFields ((name, value) :: rest) =
      (name, .list (Tree.normalizeItems (asList value))) :: Tree.normalizeFields rest := by
  cases value <;> simp [Tree.normalizeFields, Tree.normalizeItems, Tree.normalize, asList]

theorem normalizeItems_eq_map (items : List Tree) : Tree.normalizeItems items = items.map Tree.normalize := by
  induction items with
  | nil => rfl
  | cons item rest ih => rw [Tree.normalizeItems, ih, List.map_cons]

/-- Putting a value that is no list itself into fields pushes it onto the normal ones. -/
theorem normalizeFields_put {fields : List (String × Tree)} {normal : List (String × List Tree)}
    (h : Tree.normalizeFields fields = listed normal) (name : String) {value : Tree}
    (single : asList value = [value]) :
    Tree.normalizeFields (put fields name value) = listed (push normal name value.normalize) := by
  induction fields generalizing normal with
  | nil =>
    cases normal with
    | nil => rw [put, normalizeFields_cons, single, normalizeItems_eq_map]; rfl
    | cons => cases h
  | cons first rest ih =>
    obtain ⟨key, held⟩ := first
    rw [normalizeFields_cons] at h
    cases normal with
    | nil => cases h
    | cons first' rest' =>
      obtain ⟨key', values⟩ := first'
      obtain ⟨here, there⟩ := List.cons.inj h
      obtain rfl : key = key' := (Prod.mk.inj here).1
      have items : Tree.normalizeItems (asList held) = values := Tree.list.inj (Prod.mk.inj here).2
      rw [put, push]
      by_cases same : key = name
      · rw [if_pos same, if_pos same, normalizeFields_cons, there, asList, normalizeItems_eq_map, List.map_append,
          ← normalizeItems_eq_map, items]
        rfl
      · rw [if_neg same, if_neg same, normalizeFields_cons, ih there, items]
        rfl

theorem storedName?_attributeKey (name : String) :
    storedName? (attributeKey name) = if isNamespace name then none else some name := by
  unfold storedName? attributeKey
  rw [String.toList_ofList]
  simp only [String.ofList_toList]

/-- The mark of attributes may not stand in a name. -/
theorem storedName?_of_isName {name : String} (h : IsName name) : storedName? name = some (localName name) := by
  unfold storedName?
  split
  · rename_i rest opened
    have marked : isNameChar '@' = true := h '@' (opened ▸ List.mem_cons_self)
    exact absurd marked (by decide)
  · rfl

theorem normalizeFields_store {fields : List (String × Tree)} {normal : List (String × List Tree)}
    (h : Tree.normalizeFields fields = listed normal) {name : String} (named : IsName name) {value : Tree}
    (single : asList value = [value]) :
    Tree.normalizeFields (store fields name value) = listed (push normal (localName name) value.normalize) := by
  rw [store, storedName?_of_isName named]
  exact normalizeFields_put h _ single

/-- The characters are stored under the name of their field. -/
theorem normalizeFields_store_text {fields : List (String × Tree)} {normal : List (String × List Tree)}
    (h : Tree.normalizeFields fields = listed normal) (text : String) :
    Tree.normalizeFields (store fields textField (.text text)) = listed (push normal textField (.text text)) := by
  have stored : storedName? textField = some textField := rfl
  rw [store, stored]
  exact normalizeFields_put h _ rfl

/-- An element's value is no list. -/
theorem asList_valueOf (fields : List (String × Tree)) (data : List String) :
    asList (valueOf fields data) = [valueOf fields data] := by
  unfold valueOf
  split
  · cases stripped? data <;> rfl
  · split <;> rfl

/-- Characters that are left out and characters that are kept as an empty text come to the same. -/
theorem getD_stripped? (data : List String) : (stripped? data).getD "" = Text.trim (String.join data) := by
  unfold stripped?
  by_cases none : data = []
  · subst none
    rfl
  · by_cases empty : String.join data = ""
    · rw [if_neg none, if_pos empty, empty]
      rfl
    · by_cases blank : Text.trim (String.join data) = ""
      · rw [if_neg none, if_neg empty, if_pos blank, blank]
        rfl
      · rw [if_neg none, if_neg empty, if_neg blank]
        rfl

/-- An element's value becomes the tree of its normal fields and its text. -/
theorem normalize_valueOf {fields : List (String × Tree)} {normal : List (String × List Tree)}
    (h : Tree.normalizeFields fields = listed normal) (data : List String) :
    (valueOf fields data).normalize = treeOf normal (Text.trim (String.join data)) := by
  have empty : fields.isEmpty = normal.isEmpty := by
    cases fields with
    | nil => cases normal with
      | nil => rfl
      | cons => cases h
    | cons first rest => cases normal with
      | nil => rw [normalizeFields_cons] at h; cases h
      | cons => rfl
  rw [← getD_stripped?]
  unfold valueOf treeOf
  rw [empty]
  cases normal.isEmpty with
  | true => cases stripped? data <;> rfl
  | false =>
    rw [if_neg Bool.false_ne_true, if_neg Bool.false_ne_true]
    cases stripped? data with
    | none => exact congrArg Tree.element h
    | some text =>
      by_cases blank : text = ""
      · subst blank
        exact congrArg Tree.element h
      · have shown : text.isEmpty = false := by simpa using blank
        rw [Option.getD_some, shown, if_neg Bool.false_ne_true]
        split
        · rename_i same
          cases same
        · rename_i same
          exact absurd (Option.some.inj same) blank
        · rename_i same
          cases same
          exact congrArg Tree.element (normalizeFields_store_text h _)

/-- The fields that an element begins with are those of its attributes. -/
theorem normalizeFields_attributes {attributes : List (String × String)} (sound : SoundAttributes attributes) :
    Tree.normalizeFields (attributes.filterMap fun (name, value) =>
        (storedName? (attributeKey name)).map fun name => (name, .text value)) =
      listed (attributeFields attributes) := by
  have distinct : (((given attributes).map asText).map (·.1)).Nodup := by
    rw [List.map_map]
    exact nodup_given sound
  rw [attributeFields_eq, grouped_of_nodup distinct]
  clear distinct sound
  induction attributes with
  | nil => rfl
  | cons first rest ih =>
    obtain ⟨name, value⟩ := first
    rw [List.filterMap_cons, given_cons]
    dsimp only
    rw [storedName?_attributeKey]
    cases isNamespace name with
    | true => exact ih
    | false => exact congrArg ((name, .list [.text value]) :: ·) ih

namespace Handler

theorem run_append (handler : Handler) (events later : List Event) :
    handler.run (events ++ later) = (handler.run events).run later := List.foldl_append

theorem run_characters (handler : Handler) (pieces : List String) :
    handler.run (pieces.map .characters) = { handler with data := handler.data ++ pieces } := by
  induction pieces generalizing handler with
  | nil => simp [run]
  | cons piece rest ih =>
    change (handler.after (.characters piece)).run (rest.map .characters) = _
    rw [ih]
    simp [after]

/-- The events merge some content into the fields and the text of the element around it, and leave the
elements around that as they are. -/
structure Merges (handler : Handler) (events : List Event) (normal : List (String × List Tree))
    (content : List Node) : Prop where
  fields : Tree.normalizeFields (handler.run events).fields =
    listed (mergeContent normal (String.join handler.data) content).1
  text : String.join (handler.run events).data = (mergeContent normal (String.join handler.data) content).2
  around : (handler.run events).around = handler.around

/-- An element comes in as a single value under its name: the element around it waits on the stack, as it is,
until the inner one is finished. -/
theorem exists_run_element {handler : Handler} {name : String} {attributes : List (String × String)}
    {content : List Node} {inner : List Event}
    (merges : Merges (handler.after (.start name attributes)) inner (attributeFields attributes) content) :
    ∃ value, asList value = [value] ∧ value.normalize = (Node.element name attributes content).toTree ∧
      ∀ later, handler.run (.start name attributes :: (inner ++ .finish name :: later)) =
        ({ handler with fields := store handler.fields name value } : Handler).run later := by
  let opened := (handler.after (.start name attributes)).run inner
  let value := valueOf opened.fields opened.data
  refine ⟨value, asList_valueOf _ _, ?_, ?_⟩
  · rw [normalize_valueOf merges.fields, merges.text, Node.toTree]
    rfl
  · intro later
    have closed : opened.after (.finish name) = { handler with fields := store handler.fields name value } := by
      rw [after, merges.around]
      rfl
    rw [← closed, ← List.singleton_append, run_append, run_append]
    rfl

/-- The events that tell some content merge it. -/
theorem run_tells {content : List Node} {events : List Event} (tells : Tells content events)
    (sound : ∀ child ∈ content, child.IsSound) (handler : Handler) {normal : List (String × List Tree)}
    (h : Tree.normalizeFields handler.fields = listed normal) : Merges handler events normal content := by
  induction tells generalizing handler normal with
  | nil => exact ⟨h, rfl, rfl⟩
  | @text pieces value rest events joined _ ih =>
    obtain ⟨-, there⟩ := List.forall_mem_cons.1 sound
    have later := ih there { handler with data := handler.data ++ pieces } h
    constructor
    · rw [run_append, run_characters, mergeContent, ← joined, ← String.join_append]
      exact later.fields
    · rw [run_append, run_characters, mergeContent, ← joined, ← String.join_append]
      exact later.text
    · rw [run_append, run_characters]
      exact later.around
  | @element name attributes content rest inner events _ _ ihInner ih =>
    obtain ⟨here, there⟩ := List.forall_mem_cons.1 sound
    cases here with
    | element named attributed inside =>
      have merges := ihInner inside (handler.after (.start name attributes)) (normalizeFields_attributes attributed)
      obtain ⟨value, single, tree, ran⟩ := exists_run_element merges
      have later := ih there { handler with fields := store handler.fields name value }
        (normalizeFields_store h named single)
      rw [tree] at later
      constructor
      · rw [ran, mergeContent]
        exact later.fields
      · rw [ran, mergeContent]
        exact later.text
      · rw [ran]
        exact later.around

/-- The events of a sound element make its tag and its tree. -/
theorem document?_of_tells {name : String} {attributes : List (String × String)} {content : List Node}
    (sound : (Node.element name attributes content).IsSound) {events : List Event}
    (tells : Tells [.element name attributes content] events) :
    (run {} events).document? = some (localName name, (Node.element name attributes content).toTree) := by
  cases sound with
  | element named attributed inside =>
    cases tells with
    | element tells ended =>
      cases ended
      have merges := run_tells tells inside (Handler.after {} (.start name attributes))
        (normalizeFields_attributes attributed)
      obtain ⟨value, -, tree, ran⟩ := exists_run_element merges
      rw [ran, ← tree, document?, store, storedName?_of_isName named]
      rfl

end Handler

/-- **The tree of a document holds what the document holds.** Under every name of an element stand the
attribute of that name and all its children of that name, in order, and last its text; the names stand in
the order in which they first come, and every field holds a list with a value in it, at every depth. The
events of the document make the same tag and tree, in however many pieces its text is told. -/
theorem ofXml?_eq_described (text : String) :
    Tree.ofXml? text = (Node.parse text).map (fun root => (localName root.name, root.described)) ∧
      ∀ root, Node.parse text = .ok root → root.described.IsFilled ∧
        ∀ events, Tells [root] events →
          (Handler.run {} events).document? = some (localName root.name, root.described) := by
  constructor
  · unfold Tree.ofXml?
    cases parsed : Node.parse text with
    | error error => rfl
    | ok root =>
      obtain ⟨_, _, _, -, sound⟩ := exists_of_parse parsed
      exact congrArg (fun tree => Except.ok (localName root.name, tree)) (toTree_eq_described sound)
  · intro root parsed
    obtain ⟨name, attributes, content, rfl, sound⟩ := exists_of_parse parsed
    refine ⟨isFilled_described sound, ?_⟩
    intro events tells
    rw [← toTree_eq_described sound]
    exact Handler.document?_of_tells sound tells

/-- A document in which an attribute, two children and a text come together: the attribute keeps its prefix,
the children lose theirs, and the declaration of the prefix is left out. -/
def mixedDocument : String :=
  "<Card xmlns:x=\"u\" x:Name=\"a\" Name=\"b\"><x:Name>c</x:Name> d <Name/></Card>"

def mixedEvents : List Event := [
  .start "Card" [("xmlns:x", "u"), ("x:Name", "a"), ("Name", "b")],
  .start "x:Name" [], .characters "c", .finish "x:Name",
  .characters " ", .characters "d ",
  .start "Name" [], .finish "Name",
  .finish "Card"]

theorem ofXml?_eq_described_mixed :
    ∃ tree, Tree.ofXml? mixedDocument = .ok ("Card", tree) ∧ tree.IsFilled ∧
      (Handler.run {} mixedEvents).document? = some ("Card", tree) ∧
      tree = .element [
        ("x:Name", .list [.text "a"]),
        ("Name", .list [.text "b", .text "c", .text ""]),
        ("#text", .list [.text "d"])] := by
  obtain ⟨described, held⟩ := ofXml?_eq_described mixedDocument
  have parsed : Node.parse mixedDocument = .ok (.element "Card"
      [("xmlns:x", "u"), ("x:Name", "a"), ("Name", "b")]
      [.element "x:Name" [] [.text "c"], .text " d ", .element "Name" [] []]) := rfl
  obtain ⟨filled, told⟩ := held _ parsed
  have tells : Tells [.element "Card" [("xmlns:x", "u"), ("x:Name", "a"), ("Name", "b")]
      [.element "x:Name" [] [.text "c"], .text " d ", .element "Name" [] []]] mixedEvents :=
    .element (.element (@Tells.text ["c"] _ _ _ rfl .nil)
      (@Tells.text [" ", "d "] _ _ _ rfl (.element .nil .nil))) .nil
  have kept : given [("xmlns:x", "u"), ("x:Name", "a"), ("Name", "b")] = [("x:Name", "a"), ("Name", "b")] := by
    simp [given, isNamespace, String.isPrefixOf]
  rw [parsed] at described
  refine ⟨_, described, filled, told _ tells, ?_⟩
  simp only [Node.described, describedChildren, kept]
  rfl

end ViewModel.Xml
