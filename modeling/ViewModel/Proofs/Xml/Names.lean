import Mathlib.Data.List.TakeWhile
import ViewModel.Xml.Prolog.Token

/-!
# Names in a document

The names that are read from a document hold name characters only, so no mark that stands for something
else can be in them.

* `isName_of_scanName`: a name by itself;
* `isName_of_scanToken`: a name in a declaration;
* `names_of_scanStartTag`: the names of an element and of its attributes.
-/

namespace ViewModel.Xml

/-- The text holds nothing but characters that may stand in a name. -/
def IsName (name : String) : Prop := ∀ c ∈ name.toList, isNameChar c = true

theorem isName_empty : IsName "" := fun _ mem => absurd mem List.not_mem_nil

theorem isNameChar_of_isNameStart {c : Char} (h : isNameStart c = true) : isNameChar c = true := by
  simp [isNameChar, h]

theorem isName_takeWhile {c : Char} (first : isNameChar c = true) (ahead : List Char) :
    IsName (String.ofList (c :: ahead.takeWhile isNameChar)) := by
  intro other mem
  rw [String.toList_ofList] at mem
  rcases List.mem_cons.1 mem with rfl | mem
  · exact first
  · exact List.mem_takeWhile_imp mem

theorem isName_of_scanName {ahead rest : List Char} {name : String} (h : scanName ahead = .ok (name, rest)) :
    IsName name := by
  cases ahead with
  | nil => cases h
  | cons c after =>
    rw [scanName] at h
    split at h
    · rename_i start
      cases h
      exact isName_takeWhile (isNameChar_of_isNameStart start) after
    · cases h

/-- What a sequence of two scans comes to takes a success of the first. -/
theorem exists_of_bind_eq_ok {ε α β : Type} {first : Except ε α} {next : α → Except ε β} {result : β}
    (h : first >>= next = .ok result) : ∃ value, first = .ok value ∧ next value = .ok result := by
  cases first with
  | error error => cases h
  | ok value => exact ⟨value, rfl, h⟩

theorem exists_of_map_eq_ok {ε α β : Type} {first : Except ε α} {change : α → β} {result : β}
    (h : first.map change = .ok result) : ∃ value, first = .ok value ∧ change value = result := by
  cases first with
  | error error => cases h
  | ok value => exact ⟨value, rfl, Except.ok.inj h⟩

namespace Prolog

theorem isName_of_scanWord {c : Char} {rest after : List Char} {text : String} {mark : Repetition}
    (first : isNameChar c = true) (h : scanWord c rest = .ok (.name text mark, after)) : IsName text := by
  unfold scanWord at h
  dsimp only at h
  split at h
  · split at h
    · cases h; exact isName_takeWhile first rest
    · split at h
      · cases h; exact isName_takeWhile first rest
      · cases h
  · split at h <;> cases h

theorem scanOpening_ne_name {ahead rest : List Char} {text : String} {mark : Repetition} :
    scanOpening ahead ≠ .ok (.name text mark, rest) := by
  intro h
  unfold scanOpening at h
  split at h
  · obtain ⟨_, -, h⟩ := exists_of_bind_eq_ok h
    cases h
  · cases h
  · dsimp only at h
    split at h
    · cases h
    · split at h
      · cases h
      · split at h <;> cases h
    · cases h

theorem scanPercent_ne_name {ahead rest : List Char} {text : String} {mark : Repetition} :
    scanPercent ahead ≠ .ok (.name text mark, rest) := by
  intro h
  unfold scanPercent at h
  split at h
  · split at h
    · cases h
    · obtain ⟨_, -, h⟩ := exists_of_bind_eq_ok h
      dsimp only at h
      split at h <;> cases h
  · cases h

theorem isName_of_scanToken {ahead rest : List Char} {text : String} {mark : Repetition}
    (h : scanToken ahead = .ok (.name text mark, rest)) : IsName text := by
  -- Only a token that opens with a name character is a name; all others are of another kind.
  cases ahead with
  | nil => cases h
  | cons c after =>
    unfold scanToken at h
    dsimp only at h
    split at h
    case h_13 =>
      split at h
      · cases h
      · split at h
        · rename_i first
          exact isName_of_scanWord first h
        · cases h
    case h_3 =>
      split at h
      · exact absurd h scanOpening_ne_name
      · obtain ⟨_, -, h⟩ := exists_of_bind_eq_ok h
        cases h
      · split at h <;> cases h
      · cases h
    case h_4 => exact absurd h scanPercent_ne_name
    case h_1 | h_2 | h_12 =>
      obtain ⟨_, -, h⟩ := exists_of_bind_eq_ok h
      split at h <;> cases h
    case h_7 => split at h <;> cases h
    case h_9 =>
      split at h
      · cases h
      · split at h <;> cases h
    all_goals cases h

end Prolog

theorem names_of_scanAttributes {fuel : Nat} {ahead rest : List Char} {attributes : List RawAttribute}
    {empty : Bool} (h : scanAttributes fuel ahead = .ok ((attributes, empty), rest)) :
    ∀ raw ∈ attributes, IsName raw.name := by
  induction fuel generalizing ahead attributes empty rest with
  | zero => cases h
  | succ fuel ih =>
    rw [scanAttributes] at h
    dsimp only at h
    split at h
    · obtain ⟨⟨⟩, -, h⟩ := exists_of_map_eq_ok h
      cases h
      exact List.forall_mem_nil _
    · obtain ⟨⟨name, after⟩, named, h⟩ := exists_of_bind_eq_ok h
      obtain ⟨⟨value, after⟩, -, h⟩ := exists_of_bind_eq_ok h
      have first := isName_of_scanName named
      dsimp only at h
      split at h
      · obtain ⟨⟨⟩, -, h⟩ := exists_of_map_eq_ok h
        cases h
        exact List.forall_mem_singleton.2 first
      · split at h
        · obtain ⟨⟨⟨more, last⟩, after⟩, scanned, h⟩ := exists_of_bind_eq_ok h
          cases h
          exact List.forall_mem_cons.2 ⟨first, ih scanned⟩
        · cases h

/-- An element and its attributes have names. -/
theorem names_of_scanStartTag {ahead rest : List Char} {tag : StartTag}
    (h : scanStartTag ahead = .ok (tag, rest)) : IsName tag.name ∧ ∀ raw ∈ tag.attributes, IsName raw.name := by
  unfold scanStartTag at h
  obtain ⟨⟨name, after⟩, named, h⟩ := exists_of_bind_eq_ok h
  have first := isName_of_scanName named
  dsimp only at h
  split at h
  · obtain ⟨⟨⟩, -, h⟩ := exists_of_map_eq_ok h
    cases h
    exact ⟨first, List.forall_mem_nil _⟩
  · split at h
    · obtain ⟨⟨⟨attributes, empty⟩, after⟩, scanned, h⟩ := exists_of_bind_eq_ok h
      cases h
      exact ⟨first, names_of_scanAttributes scanned⟩
    · cases h

end ViewModel.Xml
