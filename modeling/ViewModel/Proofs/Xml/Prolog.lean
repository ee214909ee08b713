import ViewModel.Proofs.Xml.Names
import ViewModel.Xml.Prolog.Doctype

/-!
# What a prolog declares

However many attributes a document type declares for an element, and however often: their names are names,
and no attribute has two defaults.

* `soundly_addDeclared`, `soundly_addAttribute`: one more declaration;
* `Prolog.IsSound.next?`, `Prolog.IsSound.read`: one more token, and the whole prolog.
-/

namespace ViewModel.Xml

/-- The declared attributes have names, and each of them has one default at most. -/
structure DeclaresSoundly (known : List DeclaredAttribute) : Prop where
  names : ∀ held ∈ known, IsName held.name
  defaults : ((known.filter (·.default.isSome)).map (·.name)).Nodup

theorem DeclaresSoundly.nil : DeclaresSoundly [] := ⟨fun _ mem => absurd mem List.not_mem_nil, List.nodup_nil⟩

namespace Prolog

theorem soundly_addDeclared {known : List DeclaredAttribute} (sound : DeclaresSoundly known)
    {added : DeclaredAttribute} (name : IsName added.name) (identifier : Bool) :
    DeclaresSoundly (addDeclared added identifier known) := by
  unfold addDeclared
  split
  · exact sound
  · rename_i fresh
    constructor
    · intro held mem
      rcases List.mem_append.1 mem with mem | mem
      · exact sound.names held mem
      · exact List.mem_singleton.1 mem ▸ name
    · rw [List.filter_append, List.map_append]
      cases given : added.default with
      | none => simpa [given] using sound.defaults
      | some value =>
        have absent : ∀ held ∈ known, held.name ≠ added.name := by
          intro held mem same
          refine fresh (Bool.and_eq_true_iff.2 ⟨by rw [given]; rfl, ?_⟩)
          exact List.any_eq_true.2 ⟨held, mem, beq_iff_eq.2 same⟩
        rw [List.nodup_append]
        refine ⟨sound.defaults, by simp [given], ?_⟩
        intro first left second right
        obtain ⟨held, mem, rfl⟩ := List.mem_map.1 left
        obtain rfl : second = added.name := by simpa [given] using right
        exact absent held (List.mem_filter.1 mem).1

theorem soundly_addAttribute {element : String} {added : DeclaredAttribute} (name : IsName added.name)
    (identifier : Bool) {attributes : List (String × List DeclaredAttribute)}
    (sound : ∀ entry ∈ attributes, DeclaresSoundly entry.2) :
    ∀ entry ∈ addAttribute element added identifier attributes, DeclaresSoundly entry.2 := by
  induction attributes with
  | nil =>
    rw [addAttribute]
    exact List.forall_mem_singleton.2 (soundly_addDeclared .nil name identifier)
  | cons first rest ih =>
    obtain ⟨here, there⟩ := List.forall_mem_cons.1 sound
    rw [addAttribute]
    split
    · exact List.forall_mem_cons.2 ⟨soundly_addDeclared here name identifier, there⟩
    · exact List.forall_mem_cons.2 ⟨here, ih there⟩

/-- All that a prolog knows of attributes is declared soundly, and the one being declared has a name. -/
structure IsSound (prolog : Prolog) : Prop where
  property : IsName prolog.property
  declared : ∀ entry ∈ prolog.attributes, DeclaresSoundly entry.2

namespace IsSound

theorem start : IsSound {} := ⟨isName_empty, fun _ mem => absurd mem List.not_mem_nil⟩

variable {prolog later : Prolog} (sound : prolog.IsSound)
include sound

theorem declare (default : Option String) : (prolog.declare default).IsSound := by
  refine ⟨sound.property, ?_⟩
  unfold Prolog.declare
  dsimp only
  split
  · exact soundly_addAttribute sound.property _ sound.declared
  · exact sound.declared

theorem declareDefault {content : List Char} {start : Nat} (h : prolog.declareDefault content start = .ok later) :
    later.IsSound := by
  unfold Prolog.declareDefault at h
  split at h
  · cases h
    exact ⟨sound.property, sound.declared⟩
  · obtain ⟨_, -, h⟩ := exists_of_bind_eq_ok h
    obtain ⟨value, -, h⟩ := exists_of_bind_eq_ok h
    cases h
    exact sound.declare (some value)

theorem declareEntity {next : Expectation} (h : prolog.declareEntity next = .ok later) : later.IsSound := by
  unfold Prolog.declareEntity at h
  split at h <;> cases h
  exact ⟨sound.property, sound.declared⟩

theorem connect {mark : Char} (h : prolog.connect mark = some later) : later.IsSound := by
  unfold Prolog.connect at h
  split at h
  · cases h
    exact ⟨sound.property, sound.declared⟩
  · split at h <;> cases h
    exact ⟨sound.property, sound.declared⟩
  · cases h

/-- A token from which nothing comes changes only what is expected next. -/
theorem onward {token : Token}
    (h : ((onward? prolog.expects token).map fun expects => Except.ok { prolog with expects }) =
      some (.ok later : Except Fault Prolog)) : later.IsSound := by
  obtain ⟨expects, -, same⟩ := Option.map_eq_some_iff.1 h
  cases same
  exact ⟨sound.property, sound.declared⟩

/-- One more token leaves what is declared sound: most tokens only change what is expected next. -/
theorem next? {token : Token} {start : Nat} (named : ∀ text mark, token = .name text mark → IsName text)
    (h : prolog.next? token start = some (.ok later)) : later.IsSound := by
  unfold Prolog.next? at h
  dsimp only at h
  split at h
  -- The name of an attribute, and the ways to declare it.
  case h_13 name _ =>
    cases h
    exact ⟨named name _ rfl, sound.declared⟩
  case h_16 | h_17 =>
    cases h
    exact sound.declare none
  case h_18 | h_19 => exact sound.declareDefault (Option.some.inj h)
  -- What is checked before it is left out.
  case h_1 =>
    split at h <;> cases h
    exact ⟨sound.property, sound.declared⟩
  case h_2 | h_8 | h_11 =>
    obtain ⟨_, -, rfl⟩ := exists_of_map_eq_ok (Option.some.inj h)
    exact ⟨sound.property, sound.declared⟩
  case h_7 =>
    obtain ⟨declared, ended, h⟩ := exists_of_bind_eq_ok (Option.some.inj h)
    split at h
    · obtain ⟨_, -, h⟩ := exists_of_bind_eq_ok h
      cases h
      exact sound.declareEntity ended
    · cases h
      exact sound.declareEntity ended
  case h_9 | h_10 => exact sound.declareEntity (Option.some.inj h)
  case h_15 =>
    split at h
    · cases h
      exact ⟨sound.property, sound.declared⟩
    · exact sound.onward h
  case h_24 | h_25 =>
    obtain ⟨connected, ended, same⟩ := Option.map_eq_some_iff.1 h
    cases same
    exact sound.connect ended
  case h_26 => exact sound.onward h
  all_goals
    cases h
    exact ⟨sound.property, sound.declared⟩

/-- What a prolog declares for an element is declared soundly. -/
theorem declared_of (element : String) : DeclaresSoundly (prolog.declared element) := by
  unfold Prolog.declared
  cases found : prolog.attributes.lookup element with
  | none => exact .nil
  | some known =>
    obtain ⟨before, after, split, -⟩ := List.lookup_eq_some_iff.1 found
    exact sound.declared (element, known) (split ▸ List.mem_append_right _ List.mem_cons_self)

theorem read {fuel : Nat} {ahead rest : List Char} (h : Prolog.read fuel prolog ahead = .ok (later, rest)) :
    later.IsSound := by
  induction fuel generalizing prolog ahead with
  | zero => cases ahead <;> cases h
  | succ fuel ih =>
    cases ahead with
    | nil => cases h
    | cons c after =>
      unfold Prolog.read at h
      dsimp only at h
      split at h
      · cases h
      · rename_i token rest scanned
        split at h
        · split at h
          · cases h
            exact sound
          · cases h
        · split at h
          · cases h
          · rename_i result expected
            obtain ⟨next, rfl, h⟩ := exists_of_bind_eq_ok h
            refine ih (sound.next? ?_ expected) h
            rintro text mark rfl
            exact isName_of_scanToken scanned

end IsSound

end Prolog

end ViewModel.Xml
