import Mathlib.Data.List.Basic

/-!
# Lines of text

A text whose every line ends with a line break is its lines one after the other, and it tells them apart if
no line has a break in it.

* `cut_of_append_eq`: what stands before the first occurrence of a mark is determined;
* `toList_lines`, `toList_brokenLines`: lines with breaks between them, and with one after each;
* `lines_append`: the text of lines is that of the first ones and that of the others;
* `brokenLines_inj`: lines without breaks in them are told apart by their text.
-/

namespace ViewModel

/-- Lists without a mark are told apart from what follows its first occurrence. -/
theorem cut_of_append_eq {α : Type u} {mark : α} {before before' rest rest' : List α} (absent : mark ∉ before)
    (absent' : mark ∉ before') (h : before ++ mark :: rest = before' ++ mark :: rest') :
    before = before' ∧ rest = rest' := by
  induction before generalizing before' with
  | nil =>
    cases before' with
    | nil => exact ⟨rfl, List.tail_eq_of_cons_eq h⟩
    | cons first others =>
      obtain ⟨rfl, -⟩ := List.cons.inj h
      exact absurd List.mem_cons_self absent'
  | cons first others ih =>
    cases before' with
    | nil =>
      obtain ⟨rfl, -⟩ := List.cons.inj h
      exact absurd List.mem_cons_self absent
    | cons first' others' =>
      obtain ⟨rfl, later⟩ := List.cons.inj h
      have apart := fun mem => absent (List.mem_cons_of_mem _ mem)
      have apart' := fun mem => absent' (List.mem_cons_of_mem _ mem)
      obtain ⟨rfl, ended⟩ := ih apart apart' later
      exact ⟨rfl, ended⟩

/-- The first line, each further line and the last one, with a line break before each but the first. -/
theorem toList_lines (first last : String) (lines : List String) :
    ("\n".intercalate (first :: lines ++ [last])).toList =
      first.toList ++ (lines.flatMap fun line => '\n' :: line.toList) ++ '\n' :: last.toList := by
  induction lines generalizing first with
  | nil => simp [String.intercalate_cons_cons]
  | cons line lines ih =>
    have later := ih line
    simp only [List.cons_append] at later ⊢
    rw [String.intercalate_cons_cons, String.toList_append, String.toList_append, later]
    simp [List.append_assoc]

/-- The characters of lines with a break after each. -/
def brokenLines (lines : List String) : List Char := lines.flatMap fun line => line.toList ++ ['\n']

theorem brokenLines_cons (line : String) (lines : List String) :
    brokenLines (line :: lines) = line.toList ++ '\n' :: brokenLines lines := by
  rw [brokenLines, List.flatMap_cons, List.append_assoc]
  rfl

theorem toList_brokenLines {lines : List String} (some : lines ≠ []) :
    ("\n".intercalate lines ++ "\n").toList = brokenLines lines := by
  induction lines with
  | nil => exact absurd rfl some
  | cons line rest ih =>
    rw [brokenLines_cons]
    cases rest with
    | nil => simp [brokenLines]
    | cons second others =>
      have later := ih (List.cons_ne_nil _ _)
      rw [String.intercalate_cons_cons, String.append_assoc, String.toList_append, later, String.toList_append,
        List.append_assoc]
      rfl

/-- The text of lines is that of the first ones and that of the others. -/
theorem lines_append {lines more : List String} (some : lines ≠ []) (others : more ≠ []) :
    "\n".intercalate (lines ++ more) ++ "\n" =
      ("\n".intercalate lines ++ "\n") ++ ("\n".intercalate more ++ "\n") := by
  apply String.toList_injective
  have both : lines ++ more ≠ [] := List.append_ne_nil_of_left_ne_nil some more
  rw [toList_brokenLines both, String.toList_append, toList_brokenLines some, toList_brokenLines others]
  exact List.flatMap_append

/-- Lines that have no break in them are told apart by their text. -/
theorem brokenLines_inj {lines lines' : List String} (whole : ∀ line ∈ lines, '\n' ∉ line.toList)
    (whole' : ∀ line ∈ lines', '\n' ∉ line.toList) (same : brokenLines lines = brokenLines lines') :
    lines = lines' := by
  induction lines generalizing lines' with
  | nil =>
    cases lines' with
    | nil => rfl
    | cons line rest => simp [brokenLines] at same
  | cons line rest ih =>
    cases lines' with
    | nil => simp [brokenLines] at same
    | cons line' rest' =>
      obtain ⟨unbroken, wholeRest⟩ := List.forall_mem_cons.1 whole
      obtain ⟨unbroken', wholeRest'⟩ := List.forall_mem_cons.1 whole'
      rw [brokenLines_cons, brokenLines_cons] at same
      obtain ⟨first, later⟩ := cut_of_append_eq unbroken unbroken' same
      rw [String.toList_injective first, ih wholeRest wholeRest' later]

end ViewModel
