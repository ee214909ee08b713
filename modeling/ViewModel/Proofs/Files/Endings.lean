import ViewModel.Proofs.Files.Growth

/-!
# How names end

The names that a program makes up are a text with an ending, and the names that it looks for have one.

* `Path.proper_ofText`: what steps the path of a text can have;
* `Path.stem_append_suffix`: a name is its stem and its suffix;
* `Path.getLast?_join`: the last step of a text with an ending has that ending;
* `Path.getLast?_absolute`: the absolute path ends in the same step;
* `EndsIn`: a place whose name has an ending.
-/

namespace ViewModel.Files

namespace Path

/-- A path as texts spell it. -/
structure Proper (path : Path) : Prop where
  root : path.root = "" ∨ path.root = "/" ∨ path.root = "//"
  plain : ∀ step ∈ path.parts, isStep step.toList = true ∧ '/' ∉ step.toList

theorem plain_of_mem_stretches {chars stretch : List Char} (mem : stretch ∈ stretches chars) :
    '/' ∉ stretch := by
  induction chars generalizing stretch with
  | nil =>
    rw [stretches, List.mem_singleton] at mem
    exact mem ▸ List.not_mem_nil
  | cons c rest ih =>
    rw [stretches] at mem
    by_cases slash : c = '/'
    · rw [if_pos slash] at mem
      rcases List.mem_cons.1 mem with rfl | mem
      · exact List.not_mem_nil
      · exact ih mem
    · rw [if_neg slash] at mem
      have here : '/' ≠ c := fun same => slash same.symm
      cases split : stretches rest with
      | nil =>
        rw [split] at mem
        rw [List.mem_singleton.1 mem, List.mem_singleton]
        exact here
      | cons first others =>
        rw [split] at mem ih
        rcases List.mem_cons.1 mem with rfl | mem
        · rw [List.mem_cons, not_or]
          exact ⟨here, ih List.mem_cons_self⟩
        · exact ih (List.mem_cons_of_mem _ mem)

theorem proper_ofText (text : String) : (ofText text).Proper := by
  constructor
  · change rootOf text.toList = "" ∨ rootOf text.toList = "/" ∨ rootOf text.toList = "//"
    unfold rootOf
    split <;> simp
  · intro step mem
    obtain ⟨stretch, held, rfl⟩ := List.mem_map.1 mem
    obtain ⟨split, isStep⟩ := List.mem_filter.1 held
    rw [String.toList_ofList]
    exact ⟨isStep, plain_of_mem_stretches split⟩

/-- No step of a proper path stays where it is. -/
theorem Proper.dotless {path : Path} (proper : path.Proper) : "." ∉ path.parts := by
  intro mem
  exact absurd (proper.plain "." mem).1 (by decide)

/-! ## Stems and suffixes -/

theorem splitName_append (name : List Char) : (splitName name).1 ++ (splitName name).2 = name := by
  have whole : name.reverse.takeWhile (· != '.') ++ name.reverse.dropWhile (· != '.') = name.reverse :=
    List.takeWhile_append_dropWhile
  have first := List.head?_dropWhile_not (· != '.') name.reverse
  unfold splitName
  generalize name.reverse.takeWhile (· != '.') = after at whole ⊢
  dsimp only
  split
  · exact List.append_nil name
  · rename_i divided
    cases before : name.reverse.dropWhile (· != '.') with
    | nil =>
      rw [before, List.append_nil] at whole
      rw [whole, List.reverse_reverse, Nat.sub_self, Nat.zero_sub] at divided
      simp at divided
    | cons dot rest =>
      have dotted : dot = '.' := by
        rw [before] at first
        simpa using first
      have parts : name = rest.reverse ++ '.' :: after.reverse := by
        rw [← List.reverse_reverse name, ← whole, before, dotted]
        simp
      have length : name.length - after.reverse.length - 1 = rest.reverse.length := by
        rw [parts, List.length_append, List.length_cons]
        omega
      rw [length]
      exact parts ▸ by rw [List.take_left]

theorem stem_append_suffix (path : Path) : path.stem ++ path.suffix = path.name := by
  rw [stem, suffix, ← String.ofList_append, splitName_append, String.ofList_toList]

theorem suffix_isSuffix (path : Path) : path.suffix.toList <:+ path.name.toList := by
  rw [← stem_append_suffix, String.toList_append]
  exact List.suffix_append _ _

/-! ## Texts with an ending -/

/-- The last stretch of a text with an ending. -/
theorem stretches_append (chars : List Char) {ending : List Char} (plain : '/' ∉ ending) :
    ∃ before last, stretches (chars ++ ending) = before ++ [last ++ ending] := by
  induction chars with
  | nil => exact ⟨[], [], stretches_of_plain plain⟩
  | cons c rest ih =>
    obtain ⟨before, last, split⟩ := ih
    rw [List.cons_append, stretches, split]
    by_cases slash : c = '/'
    · exact ⟨[] :: before, last, if_pos slash⟩
    · rw [if_neg slash]
      cases before with
      | nil => exact ⟨[], c :: last, rfl⟩
      | cons first others => exact ⟨(c :: first) :: others, last, rfl⟩

/-- The last step of a text with an ending has that ending. -/
theorem getLast?_join (path : Path) (text : String) {ending : String} (plain : '/' ∉ ending.toList)
    (steps : ∀ last, isStep (last ++ ending.toList) = true) :
    ∃ last, (path.join (text ++ ending)).parts.getLast? = some last ∧ ending.toList <:+ last.toList ∧
      '/' ∉ last.toList := by
  obtain ⟨before, last, split⟩ := stretches_append text.toList plain
  have mem : last ++ ending.toList ∈ stretches (text ++ ending).toList := by
    rw [String.toList_append, split]
    exact List.mem_append_right before List.mem_cons_self
  refine ⟨String.ofList (last ++ ending.toList), ?_, ?_, ?_⟩
  · have ends : (ofText (text ++ ending)).parts.getLast? = some (String.ofList (last ++ ending.toList)) := by
      rw [ofText, String.toList_append, split, List.filter_append,
        List.filter_cons_of_pos (steps last), List.filter_nil, List.map_append]
      exact List.getLast?_concat
    rw [join]
    split
    · rw [List.getLast?_append, ends]
      rfl
    · exact ends
  · rw [String.toList_ofList]
    exact List.suffix_append _ _
  · rw [String.toList_ofList]
    exact plain_of_mem_stretches mem

/-- The absolute path ends in the same step, unless that takes back the one before it. -/
theorem getLast?_absolute {path : Path} {last : String} (ends : path.parts.getLast? = some last)
    (stays : last ≠ "..") (here : List String) : (path.absolute here).parts.getLast? = some last := by
  obtain ⟨before, held⟩ := List.getLast?_eq_some_iff.1 ends
  have collapsed (steps : List String) : (collapse (steps ++ [last])).getLast? = some last := by
    rw [collapse, List.foldl_append, List.foldl_cons, if_neg stays]
    exact List.getLast?_concat
  unfold absolute
  rw [held]
  split
  · rw [← List.append_assoc]
    exact collapsed _
  · exact collapsed _

/-- A plain name leads to a child. -/
theorem join_eq_child (path : Path) {name : String} (plain : '/' ∉ name.toList)
    (step : isStep name.toList = true) : path.join name = path.child name := by
  have root : (ofText name).root = "" := by
    change rootOf name.toList = ""
    rw [rootOf]
    cases chars : name.toList with
    | nil => rfl
    | cons c rest =>
      have here : (c == '/') = false := by
        rw [chars] at plain
        exact beq_false_of_ne fun same => plain (same ▸ List.mem_cons_self)
      rw [List.takeWhile_cons, here]
      rfl
  rw [join, root, parts_of_name plain step]
  rfl

end Path

/-! ## Places -/

/-- The name of a place has that ending. -/
def EndsIn (ending : String) (place : Location) : Prop :=
  ∃ above name, place = above ++ [name] ∧ ending.toList <:+ name.toList

theorem endsIn_concat {ending name : String} {above : Location} :
    EndsIn ending (above ++ [name]) ↔ ending.toList <:+ name.toList := by
  constructor
  · rintro ⟨above', name', same, ends⟩
    obtain ⟨-, names⟩ := List.append_inj' same rfl
    cases names
    exact ends
  · exact fun ends => ⟨above, name, rfl, ends⟩

/-- A name has only one last character. -/
theorem last_eq_of_endsIn {place : Location} {ending other : String} (h : EndsIn ending place)
    (h' : EndsIn other place) {c d : Char} (last : ending.toList.getLast? = some c)
    (last' : other.toList.getLast? = some d) : c = d := by
  obtain ⟨above, name, rfl, ends⟩ := h
  obtain ⟨before, whole⟩ := ends
  obtain ⟨before', whole'⟩ := endsIn_concat.1 h'
  have same : (before ++ ending.toList).getLast? = (before' ++ other.toList).getLast? := by
    rw [whole, whole']
  rw [List.getLast?_append, List.getLast?_append, last, last'] at same
  exact Option.some.inj same

end ViewModel.Files
