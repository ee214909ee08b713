import ViewModel.Proofs.Literal.Direct
import ViewModel.Text.Segment

/-!
# Quoted texts and references tell what they are made of

Quoting leaves the backslashes of a text alone, but it puts one before every quote. So of the backslashes before a
quote the last one was put there, and taking these out again gives the text back. A reference ends with a bracket
only if its member is quoted; the brackets then open at the last one with a bare quote behind it, and else the
member stands behind the last point.

* `unescaped_escaped`: the text that was escaped;
* `eq_of_bracketed`: where the brackets of a reference open;
* `quotes_and_references_unambiguous`: equal quoted texts are of equal texts, and equal references of equal enums and members.
-/

namespace ViewModel.Literal

/-- The characters without the backslash before each quote. -/
def unescaped : List Char → List Char
  | [] => []
  | '\\' :: '"' :: rest => '"' :: unescaped rest
  | c :: rest => c :: unescaped rest

section

variable {c : Char} {rest : List Char}

theorem unescaped_cons (apart : c = '\\' → rest.head? ≠ some '"') : unescaped (c :: rest) = c :: unescaped rest := by
  rw [unescaped]
  rintro others rfl rfl
  exact apart rfl rfl

/-- Escaped characters do not begin with a quote. -/
theorem head?_escaped_ne (chars : List Char) : (chars.flatMap escapeChar).head? ≠ some '"' := by
  cases chars with
  | nil => simp
  | cons first others =>
    by_cases quoted : first = '"'
    · simp [escapeChar, quoted]
    · simp [escapeChar, quoted]

/-- Only the backslashes that escaping puts in are taken out again. -/
theorem unescaped_escaped (chars : List Char) : unescaped (chars.flatMap escapeChar) = chars := by
  induction chars with
  | nil => rfl
  | cons first others ih =>
    by_cases quoted : first = '"'
    · subst quoted
      exact congrArg ('"' :: ·) ih
    · have single : escapeChar first = [first] := if_neg quoted
      rw [List.flatMap_cons, single, List.singleton_append, unescaped_cons fun _ => head?_escaped_ne others, ih]

end

theorem quote_injective : Function.Injective quote := by
  intro text other h
  have same := congrArg String.toList h
  rw [toList_quote, toList_quote, List.cons.injEq, List.append_left_inj] at same
  apply String.toList_injective
  rw [← unescaped_escaped text.toList, same.2, unescaped_escaped]

section

variable {before before' inner inner' : List Char}

/-- No bracket with a bare quote behind it opens after one that guarded characters follow. -/
theorem eq_nil_of_bracketed {between : List Char} (guarded : Guarded inner)
    (h : '[' :: '"' :: inner = between ++ '[' :: '"' :: inner') : between = [] := by
  rcases between with _ | ⟨first, _ | ⟨second, between⟩⟩
  · rfl
  · simp at h
  · simp only [List.cons_append, List.cons.injEq] at h
    have opened : inner = (between ++ ['[']) ++ '"' :: inner' := by simpa using h.2.2
    have closed := guarded _ _ opened
    simp at closed

/-- The brackets of a reference open at one place only. -/
theorem eq_of_bracketed (guarded : Guarded inner) (guarded' : Guarded inner')
    (h : before ++ '[' :: '"' :: inner = before' ++ '[' :: '"' :: inner') : before = before' ∧ inner = inner' := by
  have same : before = before' := by
    rcases List.append_eq_append_iff.1 h with ⟨between, split, rest⟩ | ⟨between, split, rest⟩
    · rw [split, eq_nil_of_bracketed guarded rest, List.append_nil]
    · rw [split, eq_nil_of_bracketed guarded' rest, List.append_nil]
  subst same
  simpa using h

/-- The member of a reference without brackets stands behind its last point. -/
theorem eq_of_dotted (plain : '.' ∉ inner) (plain' : '.' ∉ inner')
    (h : before ++ '.' :: inner = before' ++ '.' :: inner') : before = before' ∧ inner = inner' := by
  have last := congrArg (Text.afterLast '.') h
  rw [Text.afterLast_append, Text.afterLast_append, Text.afterLast_of_not_mem plain,
    Text.afterLast_of_not_mem plain'] at last
  subst last
  exact ⟨List.append_cancel_right h, rfl⟩

end

section

variable {enum other member member' : String}

theorem toList_memberRef_of_isIdentifier (h : Text.isIdentifier member = true) :
    (memberRef enum member).toList = enum.toList ++ '.' :: member.toList := by
  simp [memberRef, h]

theorem toList_memberRef_of_not_isIdentifier (h : Text.isIdentifier member = false) :
    (memberRef enum member).toList =
      enum.toList ++ '[' :: '"' :: member.toList.flatMap escapeChar ++ ['"', ']'] := by
  simp [memberRef, h, toList_quote]

/-- A reference by an identifier does not end with a bracket. -/
theorem memberRef_ne (h : Text.isIdentifier member = true) (h' : Text.isIdentifier member' = false) :
    memberRef enum member ≠ memberRef other member' := by
  intro same
  have absent := not_mem_of_isIdentifier (c := ']') h (by decide) (by decide) (by decide)
  have last := congrArg (·.toList.getLast?) same
  simp only [toList_memberRef_of_isIdentifier h, toList_memberRef_of_not_isIdentifier h', List.getLast?_append,
    List.getLast?_cons] at last
  cases held : member.toList.getLast? with
  | none => simp [held] at last
  | some c =>
    obtain rfl : c = ']' := by simpa [held] using last
    exact absent (List.mem_of_getLast? held)

theorem memberRef_eq_iff : memberRef enum member = memberRef other member' ↔ enum = other ∧ member = member' := by
  refine ⟨fun same => ?_, fun ⟨enums, members⟩ => by rw [enums, members]⟩
  have chars := congrArg String.toList same
  cases known : Text.isIdentifier member <;> cases known' : Text.isIdentifier member'
  case true.true =>
    have plain := not_mem_of_isIdentifier (c := '.') known (by decide) (by decide) (by decide)
    have plain' := not_mem_of_isIdentifier (c := '.') known' (by decide) (by decide) (by decide)
    rw [toList_memberRef_of_isIdentifier known, toList_memberRef_of_isIdentifier known'] at chars
    obtain ⟨enums, members⟩ := eq_of_dotted plain plain' chars
    exact ⟨String.toList_injective enums, String.toList_injective members⟩
  case true.false => exact absurd same (memberRef_ne known known')
  case false.true => exact absurd same.symm (memberRef_ne known' known)
  case false.false =>
    rw [toList_memberRef_of_not_isIdentifier known, toList_memberRef_of_not_isIdentifier known'] at chars
    obtain ⟨enums, members⟩ :=
      eq_of_bracketed (guarded_escape _) (guarded_escape _) (List.append_cancel_right chars)
    refine ⟨String.toList_injective enums, String.toList_injective ?_⟩
    rw [← unescaped_escaped member.toList, members, unescaped_escaped]

end

/-- **Quoted texts and references are unambiguous.** Texts whose literals are the same are the same, whatever
backslashes, quotes and line breaks they have; and references that are the same are to the same member of the same
enum, whichever of the two forms they have and whatever stands in the name of the enum. -/
theorem quotes_and_references_unambiguous :
    (∀ text other, quote text = quote other ↔ text = other) ∧
      ∀ enum other member member', memberRef enum member = memberRef other member' ↔
        enum = other ∧ member = member' :=
  ⟨fun _ _ => quote_injective.eq_iff, fun _ _ _ _ => memberRef_eq_iff⟩

end ViewModel.Literal
