/-!
# Last segments

Qualified names are segments with a mark between them: only the last segment names the thing.

* `mark_not_mem_afterLast`: a last segment holds no mark;
* `afterLast_append`: whatever stands before a mark does not change the last segment.
-/

namespace ViewModel.Text

/-- The characters after the last `mark`, or all of them if there is none. -/
def afterLast (mark : Char) : List Char → List Char
  | [] => []
  | c :: rest => if mark ∈ rest then afterLast mark rest else if c = mark then rest else c :: rest

def lastSegment (mark : Char) (text : String) : String :=
  String.ofList (afterLast mark text.toList)

theorem mark_not_mem_afterLast (mark : Char) (chars : List Char) : mark ∉ afterLast mark chars := by
  induction chars with
  | nil => simp [afterLast]
  | cons c rest ih =>
    simp only [afterLast]
    split
    · exact ih
    · split
      · assumption
      · rename_i absent other
        simp [absent, Ne.symm other]

theorem afterLast_of_not_mem {mark : Char} {chars : List Char} (h : mark ∉ chars) :
    afterLast mark chars = chars := by
  cases chars with
  | nil => rfl
  | cons c rest =>
    have absent : mark ∉ rest := fun mem => h (List.mem_cons_of_mem _ mem)
    have other : c ≠ mark := fun same => h (same ▸ List.mem_cons_self)
    simp [afterLast, absent, other]

theorem mem_of_mem_afterLast {mark c : Char} {chars : List Char} (h : c ∈ afterLast mark chars) : c ∈ chars := by
  induction chars with
  | nil => cases h
  | cons first rest ih =>
    rw [afterLast] at h
    split at h
    · exact List.mem_cons_of_mem _ (ih h)
    · split at h
      · exact List.mem_cons_of_mem _ h
      · exact h

theorem afterLast_append (mark : Char) (before after : List Char) :
    afterLast mark (before ++ mark :: after) = afterLast mark after := by
  induction before with
  | nil =>
    by_cases h : mark ∈ after
    · simp [afterLast, h]
    · simp [afterLast, h, afterLast_of_not_mem h]
  | cons c rest ih => simp [afterLast, ih]

end ViewModel.Text
