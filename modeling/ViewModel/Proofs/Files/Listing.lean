import Mathlib.Data.List.Basic
import ViewModel.Proofs.Files.Removal

/-!
# The files of a directory

A listing holds the paths of a directory's files with a suffix, in order of their names. It is the
filtered and sorted list of what stands right below the directory, so removing dead ends takes just their
paths out of it.

* `sorted_filter`: filtering and sorting commute;
* `exists_of_listFiles`, `listFiles_of_list`: a listing, and what it is made of;
* `exists_of_mem`: at the end of a listed path a file stands;
* `deadEnd_of_mem`: a listed path to a spoiled file is a dead end;
* `listFiles_eraseAll`: what is listed once dead ends are gone.
-/

namespace ViewModel.Files

theorem filterAuxM_of_ok {ε α : Type} {test : α → Except ε Bool} {answer : α → Bool} {items : List α}
    (h : ∀ item ∈ items, test item = .ok (answer item)) (found : List α) :
    items.filterAuxM test found = .ok ((items.filter answer).reverse ++ found) := by
  induction items generalizing found with
  | nil => rfl
  | cons item rest ih =>
    rw [List.filterAuxM, h item List.mem_cons_self]
    change rest.filterAuxM test (bif answer item then item :: found else found) = _
    rw [ih fun other mem => h other (List.mem_cons_of_mem _ mem)]
    cases kept : answer item <;> simp [kept]

/-- A test that always answers filters. -/
theorem filterM_of_ok {ε α : Type} {test : α → Except ε Bool} {answer : α → Bool} {items : List α}
    (h : ∀ item ∈ items, test item = .ok (answer item)) :
    items.filterM test = .ok (items.filter answer) := by
  rw [List.filterM, filterAuxM_of_ok h]
  change Except.ok ((items.filter answer).reverse ++ []).reverse = _
  rw [List.append_nil, List.reverse_reverse]

theorem answered_of_filterAuxM {ε α : Type} {test : α → Except ε Bool} {items found kept : List α}
    (h : items.filterAuxM test found = .ok kept) : ∀ item ∈ items, ∃ answer, test item = .ok answer := by
  induction items generalizing found with
  | nil => exact fun item mem => absurd mem List.not_mem_nil
  | cons item rest ih =>
    rw [List.filterAuxM] at h
    cases tested : test item with
    | error error => rw [tested] at h; cases h
    | ok answer =>
      rw [tested] at h
      exact List.forall_mem_cons.2 ⟨⟨answer, tested⟩, ih h⟩

theorem answered_of_filterM {ε α : Type} {test : α → Except ε Bool} {items kept : List α}
    (h : items.filterM test = .ok kept) : ∀ item ∈ items, ∃ answer, test item = .ok answer := by
  rw [List.filterM] at h
  cases filtered : items.filterAuxM test [] with
  | error error => rw [filtered] at h; cases h
  | ok found => exact answered_of_filterAuxM filtered

@[simp] theorem Path.name_child (path : Path) (name : String) : (path.child name).name = name := by
  simp [Path.child, Path.name]

/-- The suffix of a path of dots is empty. -/
theorem Path.suffix_ne {path : Path} {suffix : String} (suffixed : path.suffix = suffix)
    (nonempty : suffix ≠ "") : path.name ≠ "." ∧ path.name ≠ ".." := by
  constructor <;> intro same <;> rw [Path.suffix, same] at suffixed <;>
    exact nonempty (suffixed ▸ by decide)

namespace FileSystem

variable {files : FileSystem}

theorem sorted_perm (names : List String) : (sorted names).Perm names := List.mergeSort_perm names _

theorem sorted_pairwise (names : List String) : (sorted names).Pairwise (· ≤ ·) := by
  have le_iff {a b : String} : (!decide (b < a)) = true ↔ a ≤ b := by
    rw [Bool.not_eq_true', decide_eq_false_iff_not, String.not_lt]
  have trans (a b c : String) (first : (!decide (b < a)) = true) (second : (!decide (c < b)) = true) :
      (!decide (c < a)) = true :=
    le_iff.2 (String.le_trans (le_iff.1 first) (le_iff.1 second))
  have total (a b : String) : (!decide (b < a) || !decide (a < b)) = true := by
    rw [Bool.or_eq_true, le_iff, le_iff]
    exact String.le_total a b
  exact (List.pairwise_mergeSort trans total names).imp le_iff.1

/-- Names that are left out before or after sorting leave the same names in the same order. -/
theorem sorted_filter (names : List String) (keep : String → Bool) :
    sorted (names.filter keep) = (sorted names).filter keep :=
  List.Perm.eq_of_pairwise (fun _ _ _ _ => String.le_antisymm) (sorted_pairwise (names.filter keep))
    ((sorted_pairwise names).filter keep)
    ((sorted_perm (names.filter keep)).trans ((sorted_perm names).symm.filter keep))

theorem children_eraseAll (files : FileSystem) (gone : List Location) (place : Location) :
    (files.eraseAll gone).children place =
      (files.children place).filter fun name => decide (place ++ [name] ∉ gone) := by
  unfold children
  rw [← sorted_filter, entries_eraseAll, List.filter_filterMap, List.filter_filter]
  congr 1
  rw [List.filterMap_filter, List.filterMap_filter]
  refine List.filterMap_congr fun entry _ => ?_
  by_cases root : entry.1 = []
  · simp [root]
  · by_cases below : entry.1.dropLast = place
    · have whole : place ++ [entry.1.getLast root] = entry.1 := below ▸ List.dropLast_append_getLast root
      simp [root, below, List.getLast?_eq_some_getLast root, Option.filter, whole]
    · simp [root, below]

/-- A listing lets a name in if there is a file of that name, with the suffix. -/
def lists (files : FileSystem) (directory : Path) (suffix name : String) : Bool :=
  (files.isFile (directory.child name)).toOption.getD false && (directory.child name).suffix == suffix

section

variable {directory : Path} {suffix : String} {place : Location} {paths : List Path}

theorem list_of_located (located : files.locate directory = .ok place)
    (there : files.lookup? place = some .directory) (readable : files.meets place .unreadable = false) :
    files.list directory = .ok (files.children place) := by
  rw [list, located]
  dsimp only
  rw [there, readable]
  rfl

theorem exists_of_list {names : List String} (h : files.list directory = .ok names) :
    ∃ place, files.locate directory = .ok place ∧ files.lookup? place = some .directory ∧
      files.meets place .unreadable = false ∧ names = files.children place := by
  unfold list at h
  split at h
  · cases h
  · rename_i place located
    split at h
    · rename_i there
      by_cases closed : files.meets place .unreadable
      · rw [if_pos closed] at h
        cases h
      · rw [if_neg closed] at h
        exact ⟨place, located, there, Bool.eq_false_iff.2 closed, (Except.ok.inj h).symm⟩
    · cases h
    · cases h

theorem listFiles_of_list {names : List String} (listed : files.list directory = .ok names)
    (answered : ∀ name ∈ names, ∃ answer, files.isFile (directory.child name) = .ok answer) :
    files.listFiles directory suffix =
      .ok ((names.filter (files.lists directory suffix)).map directory.child) := by
  have answers : ∀ path ∈ names.map directory.child,
      files.isFile path = .ok ((files.isFile path).toOption.getD false) := by
    intro path mem
    obtain ⟨name, child, rfl⟩ := List.mem_map.1 mem
    obtain ⟨answer, told⟩ := answered name child
    rw [told]
    rfl
  rw [listFiles, listed]
  change (names.map directory.child).filterM files.isFile >>= _ = _
  rw [filterM_of_ok answers]
  change Except.ok (((names.map directory.child).filter fun path =>
    (files.isFile path).toOption.getD false).filter (·.suffix == suffix)) = _
  rw [List.filter_map, List.filter_map, List.filter_filter]
  refine congrArg (fun kept => Except.ok (kept.map directory.child)) (List.filter_congr fun name _ => ?_)
  rw [lists, Bool.and_comm]
  rfl

theorem exists_of_listFiles (h : files.listFiles directory suffix = .ok paths) :
    ∃ place, files.locate directory = .ok place ∧ files.lookup? place = some .directory ∧
      (∀ name ∈ files.children place, ∃ answer, files.isFile (directory.child name) = .ok answer) ∧
      paths = ((files.children place).filter (files.lists directory suffix)).map directory.child := by
  have whole := h
  unfold listFiles at h
  cases listed : files.list directory with
  | error error => rw [listed] at h; cases h
  | ok names =>
    rw [listed] at h
    change (names.map directory.child).filterM files.isFile >>= _ = _ at h
    cases filtered : (names.map directory.child).filterM files.isFile with
    | error error => rw [filtered] at h; cases h
    | ok found =>
      have answered : ∀ name ∈ names, ∃ answer, files.isFile (directory.child name) = .ok answer :=
        fun name mem => answered_of_filterM filtered _ (List.mem_map_of_mem mem)
      obtain ⟨place, located, there, -, rfl⟩ := exists_of_list listed
      refine ⟨place, located, there, answered, ?_⟩
      rw [listFiles_of_list listed answered] at whole
      exact (Except.ok.inj whole).symm

/-- A listing, and what it is made of, at the place that is known already. -/
theorem below_of_listFiles (listed : files.listFiles directory suffix = .ok paths)
    (located : files.locate directory = .ok place) :
    files.lookup? place = some .directory ∧
      (∀ name ∈ files.children place, ∃ answer, files.isFile (directory.child name) = .ok answer) ∧
      paths = ((files.children place).filter (files.lists directory suffix)).map directory.child := by
  obtain ⟨place', located', below⟩ := exists_of_listFiles listed
  rw [located] at located'
  cases located'
  exact below

/-- Only of a directory that may be read the files can be listed. -/
theorem readable_of_listFiles (listed : files.listFiles directory suffix = .ok paths)
    (located : files.locate directory = .ok place) : files.meets place .unreadable = false := by
  unfold listFiles at listed
  cases names : files.list directory with
  | error error => rw [names] at listed; cases listed
  | ok found =>
    obtain ⟨place', located', -, readable, -⟩ := exists_of_list names
    rw [located] at located'
    cases located'
    exact readable

/-- Only of a directory the files can be listed. -/
theorem isDirectory_of_listFiles (h : files.listFiles directory suffix = .ok paths) :
    files.isDirectory directory = .ok true := by
  obtain ⟨place, located, there, -, -⟩ := exists_of_listFiles h
  have found : files.stat directory = .ok .directory := by
    rw [stat, located]
    change files.present place = _
    rw [present, there]
  rw [isDirectory, leadsTo, found]

theorem exists_of_isFile {path : Path} (h : files.isFile path = .ok true) :
    ∃ reached content, files.locate path = .ok reached ∧ files.lookup? reached = some (.file content) := by
  unfold isFile leadsTo at h
  cases found : files.stat path with
  | error cause => rw [found] at h; cases cause <;> cases h
  | ok entry =>
    rw [found] at h
    obtain ⟨reached, located, held⟩ := exists_of_stat found
    cases entry with
    | file content => exact ⟨reached, content, located, held⟩
    | directory | link => cases h

theorem isFile_of_lists {name : String} (h : files.lists directory suffix name = true) :
    files.isFile (directory.child name) = .ok true := by
  obtain ⟨told, -⟩ := Bool.and_eq_true_iff.1 h
  cases answer : files.isFile (directory.child name) with
  | error error => rw [answer] at told; cases told
  | ok found => rw [answer] at told; exact congrArg _ told

theorem eq_child_of_mem (listed : files.listFiles directory suffix = .ok paths) {path : Path}
    (mem : path ∈ paths) : path = directory.child path.name := by
  obtain ⟨place, -, -, -, rfl⟩ := exists_of_listFiles listed
  obtain ⟨name, child, rfl⟩ := List.mem_map.1 mem
  rw [Path.name_child]

/-- At the end of a listed path a file stands, which may still be unfit for reading. -/
theorem exists_of_mem (listed : files.listFiles directory suffix = .ok paths) {path : Path}
    (mem : path ∈ paths) :
    ∃ reached content, files.locate path = .ok reached ∧ files.lookup? reached = some (.file content) := by
  obtain ⟨place, -, -, -, rfl⟩ := exists_of_listFiles listed
  obtain ⟨name, child, rfl⟩ := List.mem_map.1 mem
  exact exists_of_isFile (isFile_of_lists (List.mem_filter.1 child).2)

theorem named_of_mem (listed : files.listFiles directory suffix = .ok paths) (nonempty : suffix ≠ "")
    {path : Path} (mem : path ∈ paths) : path.name ≠ "." ∧ path.name ≠ ".." := by
  obtain ⟨place, -, -, -, rfl⟩ := exists_of_listFiles listed
  obtain ⟨name, child, rfl⟩ := List.mem_map.1 mem
  obtain ⟨-, suffixed⟩ := Bool.and_eq_true_iff.1 (List.mem_filter.1 child).2
  exact Path.suffix_ne (eq_of_beq suffixed) nonempty

/-- The way to a listed file leads through the directory. -/
theorem walk_of_mem (listed : files.listFiles directory suffix = .ok paths)
    (located : files.locate directory = .ok place) {path : Path} (mem : path ∈ paths)
    {reached : Location} (found : files.locate path = .ok reached) :
    ∃ left, files.walk left place [path.name] = .ok reached := by
  obtain ⟨-, walked⟩ := locate_eq_ok_iff.1 found
  rw [eq_child_of_mem listed mem] at walked
  obtain ⟨left, between, first, last⟩ := exists_of_walk_append walked
  rw [walk_unique first (locate_eq_ok_iff.1 located).2] at last
  exact ⟨left, last⟩

variable {spoiled : Location → Prop}

theorem deadEnd_of_mem (listed : files.listFiles directory suffix = .ok paths) (nonempty : suffix ≠ "")
    (located : files.locate directory = .ok place) {path : Path} (mem : path ∈ paths)
    (bad : ∀ reached, files.locate path = .ok reached → spoiled reached) :
    DeadEnd files spoiled (place ++ [path.name]) := by
  obtain ⟨reached, content, found, held⟩ := exists_of_mem listed mem
  obtain ⟨left, walked⟩ := walk_of_mem listed located mem found
  exact deadEnd_of_walk (named_of_mem listed nonempty mem) walked held (bad reached found)

variable {gone : List Location}

theorem isFile_eraseAll (dead : ∀ place ∈ gone, DeadEnd files spoiled place) (path : Path) :
    (files.eraseAll gone).isFile path = files.isFile path ∨
      (files.eraseAll gone).isFile path = .ok false ∧
        ∀ reached content, files.locate path = .ok reached →
          files.lookup? reached = some (.file content) → spoiled reached := by
  rcases stat_eraseAll dead path with same | ⟨lost, useless⟩
  · exact .inl (by rw [isFile, leadsTo, same, ← leadsTo, ← isFile])
  · refine .inr ⟨by rw [isFile, leadsTo, lost]; rfl, ?_⟩
    exact fun reached content located held => (useless reached _ located held).2 ⟨content, rfl⟩

/-- A name that is listed for a sound file is listed still, and no other name is new. -/
theorem lists_eraseAll (dead : ∀ place ∈ gone, DeadEnd files spoiled place) {name : String}
    (sound : files.lists directory suffix name = true →
      ∀ reached, files.locate (directory.child name) = .ok reached → ¬ spoiled reached) :
    (files.eraseAll gone).lists directory suffix name = files.lists directory suffix name := by
  rcases isFile_eraseAll dead (directory.child name) with same | ⟨lost, useless⟩
  · rw [lists, same, ← lists]
  · cases listed : files.lists directory suffix name with
    | false => rw [lists, lost]; rfl
    | true =>
      obtain ⟨reached, content, located, held⟩ := exists_of_isFile (isFile_of_lists listed)
      exact absurd (useless reached content located held) (sound listed reached located)

/-- Of a directory's files the removed ones are no longer listed, and all others are. -/
theorem listFiles_eraseAll (dead : ∀ place ∈ gone, DeadEnd files spoiled place)
    (listed : files.listFiles directory suffix = .ok paths)
    (located : files.locate directory = .ok place)
    (sound : ∀ path ∈ paths, place ++ [path.name] ∉ gone →
      ∀ reached, files.locate path = .ok reached → ¬ spoiled reached) :
    (files.eraseAll gone).listFiles directory suffix =
      .ok (paths.filter fun path => decide (place ++ [path.name] ∉ gone)) := by
  have readable : (files.eraseAll gone).meets place .unreadable = false := by
    rw [meets_eraseAll, readable_of_listFiles listed located]
  obtain ⟨there, answered, rfl⟩ := below_of_listFiles listed located
  have stays : place ∉ gone := by
    intro mem
    obtain ⟨entry, here, solid, -⟩ := (dead place mem).useless
    exact solid (Option.some.inj (here.symm.trans there))
  have there' : (files.eraseAll gone).lookup? place = some .directory := by
    rw [lookup?_eraseAll files (not_mem_root dead), if_neg stays, there]
  have answered' : ∀ name ∈ (files.eraseAll gone).children place,
      ∃ answer, (files.eraseAll gone).isFile (directory.child name) = .ok answer := by
    intro name mem
    rw [children_eraseAll] at mem
    rcases isFile_eraseAll dead (directory.child name) with same | ⟨lost, -⟩
    · rw [same]
      exact answered name (List.mem_filter.1 mem).1
    · exact ⟨false, lost⟩
  rw [listFiles_of_list (list_of_located (locate_eraseAll dead located there) there' readable) answered',
    children_eraseAll, List.filter_map, List.filter_filter, List.filter_filter]
  refine congrArg (fun kept => Except.ok (kept.map directory.child)) (List.filter_congr fun name mem => ?_)
  rw [Function.comp_apply, Path.name_child, Bool.and_comm]
  by_cases removed : place ++ [name] ∈ gone
  · simp [removed]
  · congr 1
    refine lists_eraseAll dead fun listed => sound _ ?_ (by rwa [Path.name_child])
    exact List.mem_map_of_mem (List.mem_filter.2 ⟨mem, listed⟩)

end

end FileSystem

end ViewModel.Files
