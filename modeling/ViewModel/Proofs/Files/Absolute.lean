import ViewModel.Proofs.Files.Directories

/-!
# Absolute paths

The absolute path takes double dots back as they are spelled, while the path itself goes up from wherever its
steps have led. The two lead to one place if there are no double dots, and if what a relative path starts from
is reached on a straight way.

* `locate_of_absolute`: where the path leads, if its absolute path leads to a place.
-/

namespace ViewModel.Files.FileSystem

variable {files : FileSystem}

theorem not_mem_of_straight {place : Location} {steps : List String} (h : files.straight place steps = true) :
    ".." ∉ steps := by
  induction steps generalizing place with
  | nil => exact List.not_mem_nil
  | cons step rest ih =>
    simp only [straight, Bool.and_eq_true, decide_eq_true_eq] at h
    obtain ⟨⟨⟨⟨-, named⟩, -⟩, -⟩, h⟩ := h
    exact List.not_mem_cons_of_ne_of_not_mem named.2.symm (ih h)

theorem checkText_of_prepend {more text : String} (h : checkText (more ++ text) = .ok ()) :
    checkText text = .ok () := by
  obtain ⟨zero, short⟩ := checkText_eq_ok_iff.1 h
  rw [String.toList_append, List.mem_append, not_or] at zero
  rw [String.utf8ByteSize_append] at short
  exact checkText_eq_ok_iff.2 ⟨zero.2, by omega⟩

/-- Below a place a relative path has the end of the absolute path's text for its text. -/
theorem checkText_of_below {here steps : List String} (h : checkText (⟨"/", here ++ steps⟩ : Path).text = .ok ()) :
    checkText (⟨"", steps⟩ : Path).text = .ok () := by
  by_cases top : steps = []
  · rw [top]
    rfl
  · have texts : (⟨"", steps⟩ : Path).text = "/".intercalate steps := by simp [Path.text, top]
    rw [texts]
    have h : checkText ("/" ++ "/".intercalate (here ++ steps)) = .ok () := h
    by_cases root : here = []
    · exact checkText_of_prepend (root ▸ h)
    · rw [String.intercalate_append_of_ne_nil root top] at h
      exact checkText_of_prepend (checkText_of_prepend h)

/-- A path without double dots leads to where its absolute path leads. -/
theorem locate_of_absolute {path : Path} {place : Location} (plain : ".." ∉ path.parts)
    (direct : path.root ≠ "" ∨ files.straight [] files.here = true)
    (h : files.locate (path.absolute files.here) = .ok place) : files.locate path = .ok place := by
  by_cases relative : path.root = ""
  · have straight := direct.resolve_left (not_not_intro relative)
    have spelled : path.absolute files.here = ⟨"/", files.here ++ path.parts⟩ := by
      have kept : ".." ∉ files.here ++ path.parts := by simp [not_mem_of_straight straight, plain]
      rw [Path.absolute, Path.collapse_of_plain kept, if_pos (beq_iff_eq.2 relative)]
    rw [spelled] at h
    obtain ⟨checked, walked⟩ := locate_eq_ok_iff.1 h
    obtain ⟨root, parts⟩ := path
    cases relative
    refine locate_eq_ok_iff.2 ⟨checkText_of_below checked, ?_⟩
    exact (walk_append_of_straight straight linkLimit parts).symm.trans walked
  · have spelled : path.absolute files.here = path := by
      rw [Path.absolute, Path.collapse_of_plain plain, if_neg (mt beq_iff_eq.1 relative)]
    rwa [spelled] at h

end ViewModel.Files.FileSystem
