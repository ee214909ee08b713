import ViewModel.Proofs.Literal.Textual
import ViewModel.Proofs.Number.Integer
import ViewModel.Proofs.Schema.Members

/-!
# Integers, read and written

Exactly the texts that are integer tokens, but for the blanks around them, are read as integers. A number property
and an item of an enum take the integer for what it is, and the property writes its numeral, which is read as the
same integer again: writing is a fixed point of reading. A number property whose text is no number writes a zero,
which is another fixed point.

* `scalar_eq_integer_iff`: which texts are read as integers;
* `scalar_toString`: the numeral of an integer that was read is read as it;
* `numberEntry_of_integer`, `loadItem_of_integer`: what a number property writes, and what ordinal an item has;
* `takenAs_of_scalar`: an integer that is read is written as its numeral and counts as an ordinal.
-/

namespace ViewModel

namespace Tree

theorem scalar_eq_integer_iff {text : String} {n : Int} :
    (Tree.text text).scalar = .integer n ↔ Number.IsInteger (Text.trim text).toList n := by
  rw [Text.trim, String.toList_ofList]
  change (scalarOf? text).getD (.text text) = .integer n ↔ _
  unfold scalarOf?
  dsimp only
  constructor
  · intro h
    split at h
    · cases h
    · split at h
      · cases h
      · split at h
        · cases h
        · split at h
          · rename_i read
            cases h
            exact Number.integer?_eq_some_iff.1 read
          · split at h
            · split at h <;> cases h
            · cases h
  · intro h
    have apart (word : String) (c : Char) (mem : c ∈ word.toList) (letter : 58 ≤ c.toNat ∧ c.toNat < 0x660) :
        (String.ofList (Text.trimWith Text.isBlank text.toList) == word) = false := by
      refine beq_eq_false_iff_ne.2 ?_
      rintro rfl
      rw [String.toList_ofList] at mem
      exact h.not_mem letter mem
    have low : (Text.trimWith Text.isBlank text.toList).contains '_' = false := by
      simpa using h.not_mem (c := '_') (by decide)
    rw [h.map_toLower, apart "true" 't' (by decide) (by decide), apart "false" 'f' (by decide) (by decide), low,
      Number.integer?_eq_some_iff.2 h]
    rfl

/-- The numeral has no blanks around it. -/
theorem scalar_toString {chars : List Char} {n : Int} (h : Number.IsInteger chars n) :
    (Tree.text (toString n)).scalar = .integer n := by
  have again := Number.isInteger_toString h
  rw [scalar_eq_integer_iff, Text.trim, String.toList_ofList, again.trimWith_isBlank]
  exact again

end Tree

namespace Schema

theorem declared?_of_first? {decl : Tree} {name text : String} (held : decl.first? name = some (.text text))
    (given : text ≠ "") : declared? decl name = .ok (some (.text text)) := by
  rw [declared?_of_list (Tree.field?_of_mem_under (Tree.mem_under_of_first? held))]
  change Except.ok ((decl.first? name).filter isGiven) = _
  rw [held]
  simp [isGiven, given]

/-- An item of an enum with an integer for its value has it for its ordinal. -/
theorem loadItem_of_integer (enumName : String) {text : String} {item name : Tree} {n : Int}
    (named : declared? item "Name" = .ok (some name)) (held : item.first? "Value" = some (.text text))
    (read : (Tree.text text).scalar = .integer n) : loadItem enumName item = pure (some (name.written, n)) := by
  have given : text ≠ "" := by
    rintro rfl
    cases read
  have ordinal : ordinal? (some (Tree.text text)) = some n := by rw [ordinal?, Option.getD_some, read]
  have found (value : Option Tree) : (Attempt.ofExcept (.ok value) : Attempt Misfit _) = pure value := rfl
  unfold loadItem
  rw [named, declared?_of_first? held given, found, found, pure_bind, pure_bind, ordinal]

end Schema

namespace Literal

open Schema

section

variable {slot : Slot} {value : Tree} (given : slot.given? = some value)
include given

theorem look_value? : look slot.value? = pure (some value) := by
  have found : slot.tree.field? slot.property = some (.list (slot.tree.under slot.property)) :=
    Tree.field?_of_mem_under (Tree.mem_under_of_first? given)
  rw [Slot.value?, found]
  exact congrArg (fun first => look (.ok first)) given

theorem numberEntry_of_integer {n : Int} (read : value.scalar = .integer n) :
    Encoder.numberEntry slot = pure (toString n) := by
  unfold Encoder.numberEntry
  rw [look_value? given, pure_bind, Option.map_some, read]
  rfl

/-- A zero is written for a value that is no number. -/
theorem outcome_numberEntry_of_other (noInteger : ∀ n, value.scalar ≠ .integer n)
    (noDecimal : ∀ x, value.scalar ≠ .decimal x) : (Encoder.numberEntry slot).outcome = .ok "0" := by
  unfold Encoder.numberEntry
  rw [look_value? given, pure_bind, Option.map_some]
  cases scalar : value.scalar with
  | integer n => exact absurd scalar (noInteger n)
  | decimal x => exact absurd scalar (noDecimal x)
  | _ => rfl

end

/-- A number property with the text writes the numeral and records nothing, and an item of an enum with the text for
its value has the ordinal. -/
structure TakenAs (text : String) (n : Int) : Prop where
  numeral (encoder : Encoder) (slot : Slot) (low high : Option Float) (count : Option Int) :
    slot.given? = some (.text text) → encoder.entry slot (.number low high count) = pure (toString n)
  ordinal (enumName : String) (item name : Tree) :
    declared? item "Name" = .ok (some name) → item.first? "Value" = some (.text text) →
      loadItem enumName item = pure (some (name.written, n))

theorem takenAs_of_scalar {text : String} {n : Int} (read : (Tree.text text).scalar = .integer n) :
    TakenAs text n where
  numeral encoder slot low high count given := by
    rw [Encoder.entry]
    exact numberEntry_of_integer given read
  ordinal enumName _ _ named held := loadItem_of_integer enumName named held read

/-- **Integer tokens are read exactly.** A text is read as an integer just when it is a token of it, but for blanks;
then the integer is written as its numeral and counts as an ordinal, and so does its numeral. A text that is read as
no number is written as a zero, and so is the zero. -/
theorem integer_tokens_exact (text : String) :
    (∀ n, (Tree.text text).scalar = .integer n ↔ Number.IsInteger (Text.trim text).toList n) ∧
    (∀ n, Number.IsInteger (Text.trim text).toList n →
      Number.IsCanonical (toString n).toList n ∧ TakenAs text n ∧ TakenAs (toString n) n) ∧
    ((∀ n, (Tree.text text).scalar ≠ .integer n) → (∀ x, (Tree.text text).scalar ≠ .decimal x) →
      ∀ given ∈ [text, "0"], ∀ (encoder : Encoder) (slot : Slot) (low high : Option Float) (count : Option Int),
        slot.given? = some (.text given) → (encoder.entry slot (.number low high count)).outcome = .ok "0") := by
  refine ⟨fun n => Tree.scalar_eq_integer_iff, fun n h => ?_, fun noInteger noDecimal => ?_⟩
  · exact ⟨Number.isCanonical_toString n, takenAs_of_scalar (Tree.scalar_eq_integer_iff.2 h),
      takenAs_of_scalar (Tree.scalar_toString h)⟩
  · intro given mem encoder slot low high count held
    rcases List.mem_pair.1 mem with rfl | rfl
    · rw [Encoder.entry]
      exact outcome_numberEntry_of_other held noInteger noDecimal
    · have zero : (Tree.text "0").scalar = .integer 0 := rfl
      rw [(takenAs_of_scalar zero).numeral encoder slot low high count held]
      rfl

/-- Minus seven with leading zeros, in the digits of another script and with blanks around it, and a number in
words. -/
theorem integer_tokens_exact_seven :
    Number.IsInteger (Text.trim " -٠٠٧\n").toList (-7) ∧
      (Encoder.mk Registry.empty 2 "Bangers").entry
        ⟨"House", "Floor", .element [("Floor", .list [.text " -٠٠٧\n"])], "  "⟩ (.number none none none) = pure "-7" ∧
      loadItem "Floor" (.element [("Name", .list [.text "Cellar"]), ("Value", .list [.text "-7"])]) =
        pure (some ("Cellar", -7)) ∧
      ((Encoder.mk Registry.empty 2 "Bangers").entry
        ⟨"House", "Floor", .element [("Floor", .list [.text "seven"])], "  "⟩ (.number none none none)).outcome =
          .ok "0" := by
  obtain ⟨read, taken, -⟩ := integer_tokens_exact " -٠٠٧\n"
  have token : Number.IsInteger (Text.trim " -٠٠٧\n").toList (-7) := (read (-7)).1 rfl
  obtain ⟨-, padded, numeral⟩ := taken (-7) token
  refine ⟨token, padded.numeral _ _ _ _ _ rfl, numeral.ordinal "Floor" _ (.text "Cellar") rfl rfl, ?_⟩
  exact (integer_tokens_exact "seven").2.2 nofun nofun "seven" (by decide) _ _ _ _ _ rfl

end Literal

end ViewModel
