/-!
# Lists without their repetitions

The distinct items of a list stand in the order in which they first come.

* `eraseDups_concat`: one more item changes nothing if it is known, and comes last otherwise;
* `nodup_eraseDups`: no item comes twice.
-/

namespace ViewModel

variable {α : Type u} [BEq α] [LawfulBEq α]

theorem eraseDups_concat (items : List α) (next : α) :
    (items ++ [next]).eraseDups = if next ∈ items then items.eraseDups else items.eraseDups ++ [next] := by
  rw [List.eraseDups_append]
  by_cases known : next ∈ items
  · have kept : [next].removeAll items = [] := by simpa [List.removeAll] using known
    rw [kept, if_pos known]
    exact List.append_nil _
  · have kept : [next].removeAll items = [next] := by simpa [List.removeAll] using known
    rw [kept, if_neg known]
    rfl

theorem nodup_eraseDups (items : List α) : items.eraseDups.Nodup := by
  -- By the last item: the first one would change what is erased of all the others.
  obtain ⟨reversed, rfl⟩ : ∃ reversed : List α, items = reversed.reverse := ⟨items.reverse, by simp⟩
  induction reversed with
  | nil => exact List.nodup_nil
  | cons next rest ih =>
    rw [List.reverse_cons, eraseDups_concat]
    by_cases known : next ∈ rest.reverse
    · rw [if_pos known]
      exact ih
    · rw [if_neg known, List.nodup_append]
      refine ⟨ih, by simp, ?_⟩
      rintro item left other right rfl
      rw [List.mem_singleton] at right
      exact known (right ▸ List.mem_eraseDups.1 left)

end ViewModel
