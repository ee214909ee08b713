import ViewModel.Proofs.Xml.Prolog
import ViewModel.Xml.Reader

/-!
# What is read from a document

Every element that is read has a name, and attributes of distinct names, at every depth. What is declared
for it adds only defaults of attributes that it does not have.

* `soundAttributes_of`: the attributes of a tag, with the declared ones;
* `Open.IsSound.read`: the elements that are open are sound, and so is the one that is closed last;
* `exists_of_parse`: the root of every document.
-/

namespace ViewModel.Xml

/-- Attributes with names, of which no two are the same. -/
structure SoundAttributes (attributes : List (String × String)) : Prop where
  names : ∀ entry ∈ attributes, IsName entry.1
  distinct : (attributes.map (·.1)).Nodup

/-- Every element of the node has a name, and sound attributes. -/
inductive Node.IsSound : Node → Prop
  | text (value : String) : IsSound (.text value)
  | element {name : String} {attributes : List (String × String)} {content : List Node} :
      IsName name → SoundAttributes attributes → (∀ child ∈ content, IsSound child) →
      IsSound (.element name attributes content)

/-- An element that is still open, with all that was read of it. -/
structure Open.IsSound (opened : Open) : Prop where
  name : IsName opened.name
  attributes : SoundAttributes opened.attributes
  content : ∀ child ∈ opened.content, child.IsSound

theorem SoundAttributes.nil : SoundAttributes [] :=
  ⟨fun _ mem => absurd mem List.not_mem_nil, List.nodup_nil⟩

/-- Further attributes of other names that are distinct themselves. -/
theorem SoundAttributes.append {given more : List (String × String)} (sound : SoundAttributes given)
    (sound' : SoundAttributes more) (apart : ∀ entry ∈ more, given.any (·.1 == entry.1) = false) :
    SoundAttributes (given ++ more) := by
  constructor
  · intro entry mem
    rcases List.mem_append.1 mem with mem | mem
    · exact sound.names entry mem
    · exact sound'.names entry mem
  · rw [List.map_append, List.nodup_append]
    refine ⟨sound.distinct, sound'.distinct, ?_⟩
    rintro first left second right rfl
    obtain ⟨entry, mem, rfl⟩ := List.mem_map.1 right
    obtain ⟨other, mem', same⟩ := List.mem_map.1 left
    have absent := List.any_eq_false.1 (apart entry mem) other mem'
    exact absent (beq_iff_eq.2 same)

/-- A loop keeps what each of its steps keeps. -/
theorem forall_of_foldlM {ε α β : Type} {step : β → α → Except ε β} {P : β → Prop} {items : List α}
    {start result : β} (first : P start)
    (h : ∀ reached, P reached → ∀ item ∈ items, ∀ next, step reached item = .ok next → P next)
    (ended : items.foldlM step start = .ok result) : P result := by
  induction items generalizing start with
  | nil =>
    cases ended
    exact first
  | cons item rest ih =>
    rw [List.foldlM_cons] at ended
    obtain ⟨next, stepped, ended⟩ := exists_of_bind_eq_ok ended
    have kept := h start first item List.mem_cons_self next stepped
    exact ih kept (fun reached held item mem => h reached held item (List.mem_cons_of_mem _ mem)) ended

/-- The default of a declared attribute that is not given. -/
def absentDefault? (given : List (String × String)) (known : DeclaredAttribute) : Option (String × String) :=
  if given.any (·.1 == known.name) then none else known.default.map fun value => (known.name, value)

theorem absentDefault?_eq_some {given : List (String × String)} {known : DeclaredAttribute}
    {entry : String × String} (h : absentDefault? given known = some entry) :
    given.any (·.1 == known.name) = false ∧ known.default.isSome = true ∧ entry.1 = known.name := by
  unfold absentDefault? at h
  split at h
  · cases h
  · rename_i absent
    obtain ⟨value, default, rfl⟩ := Option.map_eq_some_iff.1 h
    exact ⟨Bool.eq_false_iff.2 absent, Option.isSome_iff_exists.2 ⟨value, default⟩, rfl⟩

/-- The absent defaults are some of those that are declared. -/
theorem absentDefaults_sublist (given : List (String × String)) (declared : List DeclaredAttribute) :
    ((declared.filterMap (absentDefault? given)).map (·.1)).Sublist
      ((declared.filter (·.default.isSome)).map (·.name)) := by
  induction declared with
  | nil => exact List.Sublist.refl _
  | cons known rest ih =>
    cases made : absentDefault? given known with
    | none =>
      rw [List.filterMap_cons_none made, List.filter_cons]
      split
      · exact ih.cons _
      · exact ih
    | some entry =>
      obtain ⟨-, default, same⟩ := absentDefault?_eq_some made
      rw [List.filterMap_cons_some made, List.filter_cons, if_pos default, List.map_cons, List.map_cons, same]
      exact ih.cons_cons _

theorem soundAttributes_absentDefaults {declared : List DeclaredAttribute} (sound : DeclaresSoundly declared)
    (given : List (String × String)) : SoundAttributes (declared.filterMap (absentDefault? given)) := by
  constructor
  · intro entry mem
    obtain ⟨known, held, made⟩ := List.mem_filterMap.1 mem
    rw [(absentDefault?_eq_some made).2.2]
    exact sound.names known held
  · exact (absentDefaults_sublist given declared).nodup sound.defaults

/-- An element has each attribute once: what stands in its tag is checked, and a default is added only if
it is absent. -/
theorem soundAttributes_of {prolog : Prolog} (sound : prolog.IsSound) {tag : StartTag}
    (named : ∀ raw ∈ tag.attributes, IsName raw.name) {start : Nat} {attributes : List (String × String)}
    (h : attributesOf prolog start tag = .ok attributes) : SoundAttributes attributes := by
  unfold attributesOf at h
  obtain ⟨given, read, h⟩ := exists_of_bind_eq_ok h
  cases h
  refine SoundAttributes.append ?_ (soundAttributes_absentDefaults (sound.declared_of tag.name) given) ?_
  · refine forall_of_foldlM .nil ?_ read
    intro reached held raw mem next stepped
    dsimp only at stepped
    split at stepped
    · cases stepped
    · rename_i fresh
      obtain ⟨value, -, stepped⟩ := exists_of_bind_eq_ok stepped
      cases stepped
      refine held.append ⟨?_, by simp⟩ ?_
      · exact List.forall_mem_singleton.2 (named raw mem)
      · exact List.forall_mem_singleton.2 (Bool.eq_false_iff.2 fresh)
  · intro entry mem
    obtain ⟨known, -, made⟩ := List.mem_filterMap.1 mem
    obtain ⟨absent, -, same⟩ := absentDefault?_eq_some made
    rw [same]
    exact absent

theorem names_of_scanMarkup {ahead rest : List Char} {tag : StartTag}
    (h : scanMarkup ahead = .ok (.start tag, rest)) : IsName tag.name ∧ ∀ raw ∈ tag.attributes, IsName raw.name := by
  unfold scanMarkup at h
  split at h
  · obtain ⟨_, -, h⟩ := exists_of_bind_eq_ok h
    cases h
  · obtain ⟨_, -, h⟩ := exists_of_bind_eq_ok h
    split at h <;> cases h
  · obtain ⟨_, -, h⟩ := exists_of_bind_eq_ok h
    cases h
  · obtain ⟨_, -, h⟩ := exists_of_bind_eq_ok h
    cases h
  · cases h
  · obtain ⟨⟨found, after⟩, scanned, h⟩ := exists_of_bind_eq_ok h
    cases h
    exact names_of_scanStartTag scanned

namespace Open.IsSound

/-- An element is sound when it is opened. -/
theorem start {prolog : Prolog} (declares : prolog.IsSound) {tag : StartTag}
    (named : IsName tag.name ∧ ∀ raw ∈ tag.attributes, IsName raw.name) {start : Nat}
    {attributes : List (String × String)} (h : attributesOf prolog start tag = .ok attributes) :
    Open.IsSound ⟨tag.name, attributes, []⟩ :=
  ⟨named.1, soundAttributes_of declares named.2 h, fun _ mem => absurd mem List.not_mem_nil⟩

variable {opened : Open} (sound : opened.IsSound)
include sound

theorem close : opened.close.IsSound :=
  .element sound.name sound.attributes fun child mem => sound.content child (List.mem_reverse.1 mem)

theorem add {node : Node} (sound' : node.IsSound) : (opened.add node).IsSound :=
  ⟨sound.name, sound.attributes, List.forall_mem_cons.2 ⟨sound', sound.content⟩⟩

theorem addText (read : List Char) : (opened.addText read).IsSound := by
  unfold Open.addText
  split
  · exact sound
  · exact sound.add (.text _)

/-- Whatever is read inside sound elements, what is closed last is a sound element. -/
theorem read {prolog : Prolog} (declares : prolog.IsSound) {fuel : Nat} {around : List Open}
    (outer : ∀ other ∈ around, other.IsSound) {read ahead rest : List Char} {node : Node}
    (h : readContent prolog fuel opened around read ahead = .ok (node, rest)) :
    ∃ last : Open, last.IsSound ∧ node = last.close := by
  fun_induction readContent prolog fuel opened around read ahead
  -- The last element is closed, or another one in its place.
  case case16 =>
    exact ⟨_, sound.addText _, (Prod.mk.inj (Except.ok.inj h)).1.symm⟩
  case case17 ih =>
    obtain ⟨first, rest⟩ := List.forall_mem_cons.1 outer
    exact ih (first.add (sound.addText _).close) rest h
  -- An element is opened, and closed at once if it is empty.
  case case19 ih =>
    have inner := start declares (names_of_scanMarkup ‹scanMarkup _ = _›) ‹attributesOf _ _ _ = _›
    exact ih ((sound.addText _).add inner.close) outer h
  case case20 ih =>
    have inner := start declares (names_of_scanMarkup ‹scanMarkup _ = _›) ‹attributesOf _ _ _ = _›
    exact ih inner (List.forall_mem_cons.2 ⟨sound.addText _, outer⟩) h
  -- Characters, references, sections and asides leave the open elements as they are.
  case case5 ih | case6 ih | case9 ih | case11 ih | case14 ih | case21 ih => exact ih sound outer h
  all_goals cases h

end Open.IsSound

theorem exists_of_readRoot {prolog : Prolog} (declares : prolog.IsSound) {ahead rest : List Char} {root : Node}
    (h : readRoot prolog ahead = .ok (root, rest)) : ∃ last : Open, last.IsSound ∧ root = last.close := by
  unfold readRoot at h
  dsimp only at h
  split at h
  · cases h
  · rename_i tag after scanned
    obtain ⟨attributes, read, h⟩ := exists_of_bind_eq_ok h
    have opened := Open.IsSound.start declares (names_of_scanStartTag scanned) read
    split at h
    · cases h
      exact ⟨_, opened, rfl⟩
    · exact opened.read declares (fun _ mem => absurd mem List.not_mem_nil) h

theorem exists_of_readDocument {document : List Char} {root : Node} (h : readDocument document = .ok root) :
    ∃ last : Open, last.IsSound ∧ root = last.close := by
  unfold readDocument at h
  obtain ⟨⟨prolog, ahead⟩, read, h⟩ := exists_of_bind_eq_ok h
  obtain ⟨⟨node, rest⟩, read', h⟩ := exists_of_bind_eq_ok h
  obtain ⟨_, -, h⟩ := exists_of_bind_eq_ok h
  cases h
  exact exists_of_readRoot (Prolog.IsSound.start.read read) read'

theorem reading_of_finish {decoded : Decoded} {reading : Except Fault Node} {root : Node}
    (h : decoded.finish reading = .ok root) : reading = .ok root := by
  unfold Decoded.finish at h
  split at h
  · split at h
    · cases h
    · cases h
    · exact h
  · exact h

/-- The root of every document is a sound element. -/
theorem exists_of_parse {text : String} {root : Node} (h : Node.parse text = .ok root) :
    ∃ name attributes content, root = .element name attributes content ∧ root.IsSound := by
  unfold Node.parse at h
  dsimp only at h
  cases ended : (Decoded.ofText text).finish (readDocument (Decoded.ofText text).chars) with
  | error fault => rw [ended] at h; cases h
  | ok found =>
    rw [ended] at h
    cases h
    obtain ⟨last, sound, rfl⟩ := exists_of_readDocument (reading_of_finish ended)
    exact ⟨_, _, _, rfl, sound.close⟩

end ViewModel.Xml
