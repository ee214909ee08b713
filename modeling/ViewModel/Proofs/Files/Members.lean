import Mathlib.Data.List.Perm.Basic
import ViewModel.Proofs.Files.Listing
import ViewModel.Proofs.Files.Overlay

/-!
# What a listing holds

A listing is determined by its members, since it holds each of them once and in order. Where no link is in
the way its members are the files right below the directory, whatever else changes.

* `mem_children_iff`, `nodup_children`: the names below a place are those where something stands;
* `mem_listFiles_iff`: a path is listed if its file is there, with the suffix;
* `increasing_listFiles`: the names of a listing increase;
* `Adds.listFiles_eq`, `Overlaid.listFiles`: a listing stays while directories are added, and while files
  are written that it does not show.
-/

namespace ViewModel.Files.FileSystem

variable {files later : FileSystem} {directory : Path} {suffix : String} {place : Location}
  {paths others : List Path}

theorem mem_children_iff {name : String} :
    name ∈ files.children place ↔ files.lookup? (place ++ [name]) ≠ none := by
  have inside : place ++ [name] ≠ [] := by simp
  rw [children, (sorted_perm _).mem_iff, lookup?, if_neg inside, ne_eq, List.lookup_eq_none_iff]
  simp only [List.mem_filterMap, List.mem_filter, Bool.and_eq_true, bne_iff_ne, beq_iff_eq, not_forall,
    ne_eq, not_not, exists_prop]
  constructor
  · rintro ⟨entry, ⟨mem, -, rfl⟩, last⟩
    obtain ⟨before, whole⟩ := List.getLast?_eq_some_iff.1 last
    refine ⟨entry, mem, ?_⟩
    rw [whole, List.dropLast_concat]
  · rintro ⟨entry, mem, same⟩
    refine ⟨entry, ⟨mem, ?_, ?_⟩, ?_⟩ <;> simp [← same]

theorem nodup_children (distinct : files.Distinct) (place : Location) : (files.children place).Nodup := by
  rw [children, (sorted_perm _).nodup_iff]
  refine List.pairwise_filterMap.2 ?_
  refine List.Pairwise.imp_of_mem ?_ ((List.pairwise_map.1 distinct).filter _)
  intro first second mem mem' apart name last name' last' same
  subst same
  obtain ⟨-, below⟩ := List.mem_filter.1 mem
  obtain ⟨-, below'⟩ := List.mem_filter.1 mem'
  simp only [Bool.and_eq_true, bne_iff_ne, beq_iff_eq] at below below'
  obtain ⟨before, whole⟩ := List.getLast?_eq_some_iff.1 last
  obtain ⟨before', whole'⟩ := List.getLast?_eq_some_iff.1 last'
  apply apart
  rw [whole, List.dropLast_concat] at below
  rw [whole', List.dropLast_concat] at below'
  rw [whole, whole', below.2, below'.2]

theorem isFile_iff {path : Path} :
    files.isFile path = .ok true ↔
      ∃ place content, files.locate path = .ok place ∧ files.lookup? place = some (.file content) := by
  constructor
  · exact exists_of_isFile
  · rintro ⟨place, content, located, there⟩
    have found : files.stat path = .ok (.file content) := by
      rw [stat, located]
      change files.present place = _
      rw [present, there]
    rw [isFile, leadsTo, found]

/-- Whether a path leads to a file can be told unless the failure to look it up leaves it open. -/
theorem answers_iff {path : Path} :
    (∃ answer, files.isFile path = .ok answer) ↔
      ∀ cause, files.locate path = .error cause → cause.leavesOpen = false := by
  rw [isFile, leadsTo, stat]
  cases files.locate path with
  | error cause =>
    change (∃ answer, (if cause.leavesOpen then Except.error _ else .ok false) = .ok answer) ↔ _
    cases open' : cause.leavesOpen <;> simp [open']
  | ok place =>
    have found : (Except.ok place >>= files.present) = files.present place := rfl
    rw [found, present]
    cases files.lookup? place <;> simp [Cause.leavesOpen]

theorem answers_of_located {path : Path} (located : files.locate path = .ok place) :
    ∃ answer, files.isFile path = .ok answer := by
  refine answers_iff.2 fun cause failed => ?_
  rw [located] at failed
  cases failed

theorem lists_iff {name : String} :
    files.lists directory suffix name = true ↔
      files.isFile (directory.child name) = .ok true ∧ (directory.child name).suffix = suffix := by
  constructor
  · intro h
    exact ⟨isFile_of_lists h, eq_of_beq (Bool.and_eq_true_iff.1 h).2⟩
  · rintro ⟨found, suffixed⟩
    rw [lists, found, suffixed]
    exact beq_self_eq_true suffix

theorem isFile_of_mem (listed : files.listFiles directory suffix = .ok paths) {path : Path}
    (mem : path ∈ paths) : files.isFile path = .ok true ∧ path.suffix = suffix := by
  obtain ⟨place, -, -, -, rfl⟩ := exists_of_listFiles listed
  obtain ⟨name, child, rfl⟩ := List.mem_map.1 mem
  exact lists_iff.1 (List.mem_filter.1 child).2

/-- The names of a listing increase, so none of them is listed twice. -/
theorem increasing_listFiles (listed : files.listFiles directory suffix = .ok paths)
    (distinct : files.Distinct) : (paths.map Path.name).Pairwise (· < ·) := by
  obtain ⟨place, -, -, -, rfl⟩ := exists_of_listFiles listed
  rw [List.map_map, show Path.name ∘ directory.child = id from funext (Path.name_child directory), List.map_id]
  have ordered := (sorted_pairwise _).and (nodup_children distinct place)
  refine List.Pairwise.filter _ (ordered.imp ?_)
  rintro a b ⟨le, ne⟩
  by_contra less
  exact ne (String.le_antisymm le (String.not_lt.1 less))

theorem nodup_listFiles (listed : files.listFiles directory suffix = .ok paths)
    (distinct : files.Distinct) : paths.Nodup := by
  refine List.Pairwise.of_map Path.name ?_ (increasing_listFiles listed distinct)
  rintro path _ less rfl
  exact String.lt_irrefl path.name less

/-- Listings with the same members are the same. -/
theorem listFiles_unique (listed : files.listFiles directory suffix = .ok paths)
    (listed' : later.listFiles directory suffix = .ok others) (distinct : files.Distinct)
    (distinct' : later.Distinct) (same : ∀ path, path ∈ paths ↔ path ∈ others) : paths = others := by
  have perm := (List.perm_ext_iff_of_nodup (nodup_listFiles listed distinct)
    (nodup_listFiles listed' distinct')).2 same
  have names : paths.map Path.name = others.map Path.name :=
    List.Perm.eq_of_pairwise (fun _ _ _ _ less less' => absurd less' (String.lt_asymm less))
      (increasing_listFiles listed distinct) (increasing_listFiles listed' distinct') (perm.map _)
  have whole {paths : List Path} (children : ∀ path ∈ paths, path = directory.child path.name) :
      paths = (paths.map Path.name).map directory.child :=
    calc paths = paths.map id := (List.map_id paths).symm
      _ = paths.map (directory.child ∘ Path.name) := List.map_congr_left children
      _ = (paths.map Path.name).map directory.child := List.map_map.symm
  rw [whole fun _ => eq_child_of_mem listed, whole fun _ => eq_child_of_mem listed', names]

/-- Where no link is in the way, what is listed is the files below the directory. -/
theorem mem_listFiles_iff (listed : files.listFiles directory suffix = .ok paths)
    (located : files.locate directory = .ok place) (nonempty : suffix ≠ "")
    (unlinked : ∀ name target, files.lookup? (place ++ [name]) ≠ some (.link target)) {path : Path} :
    path ∈ paths ↔
      ∃ name, path = directory.child name ∧ path.suffix = suffix ∧ files.isFile path = .ok true := by
  obtain ⟨there, -, rfl⟩ := below_of_listFiles listed located
  simp only [List.mem_map, List.mem_filter, lists_iff]
  constructor
  · rintro ⟨name, ⟨-, found, suffixed⟩, rfl⟩
    exact ⟨name, rfl, suffixed, found⟩
  · rintro ⟨name, rfl, suffixed, found⟩
    refine ⟨name, ⟨?_, found, suffixed⟩, rfl⟩
    obtain ⟨reached, content, leads, held⟩ := isFile_iff.1 found
    have named := Path.suffix_ne suffixed nonempty
    rw [Path.name_child] at named
    obtain ⟨-, -, -, same⟩ := (locate_child_eq_ok_iff located there (unlinked name) named).1 leads
    rw [mem_children_iff, ← same, held]
    exact nofun

/-- New directories are not listed. -/
theorem Adds.listFiles_eq (adds : Adds files later) (listed : files.listFiles directory suffix = .ok paths)
    (listed' : later.listFiles directory suffix = .ok others) (distinct : files.Distinct)
    (located : files.locate directory = .ok place) (nonempty : suffix ≠ "")
    (unlinked : ∀ name target, files.lookup? (place ++ [name]) ≠ some (.link target)) : others = paths := by
  have there := (below_of_listFiles listed located).1
  have unlinked' (name target : String) : later.lookup? (place ++ [name]) ≠ some (.link target) :=
    fun link => unlinked name target ((adds.keeps.link _ _).1 link)
  refine listFiles_unique listed' listed (adds.distinct distinct) distinct fun path => ?_
  rw [mem_listFiles_iff listed' (adds.keeps.locate located) nonempty unlinked',
    mem_listFiles_iff listed located nonempty unlinked]
  refine exists_congr fun name => and_congr_right fun child => and_congr_right fun _ => ?_
  rw [isFile_iff, isFile_iff, child, adds.keeps.locate_child located there (unlinked name)]
  refine exists_congr fun reached => exists_congr fun content => and_congr_right fun _ => ?_
  constructor
  · intro held
    rw [adds.lookup?_of_solid (by rw [held]; exact nofun), held]
  · exact adds.lookup?

/-- Writes that a listing does not show leave it as it is. -/
theorem Overlaid.listFiles {free : List Location} {writes : List (Location × List UInt8)}
    (overlaid : Overlaid free files writes later) (listed : files.listFiles directory suffix = .ok paths)
    (distinct : files.Distinct) (located : files.locate directory = .ok place) (nonempty : suffix ≠ "")
    (unlinked : ∀ name target, files.lookup? (place ++ [name]) ≠ some (.link target))
    (hidden : ∀ name, place ++ [name] ∈ writes.map Prod.fst →
      (directory.child name).suffix ≠ suffix ∧ ∃ reached, files.locate (directory.child name) = .ok reached) :
    later.listFiles directory suffix = .ok paths := by
  obtain ⟨there, answered, -⟩ := below_of_listFiles listed located
  have located' := overlaid.locate_iff.2 located
  have there' := overlaid.keeps.directory place there
  have unlinked' (name target : String) : later.lookup? (place ++ [name]) ≠ some (.link target) :=
    fun link => unlinked name target ((overlaid.keeps.link _ _).1 link)
  have same (name : String) : later.locate (directory.child name) = files.locate (directory.child name) :=
    overlaid.keeps.locate_child located there (unlinked name)
  have answered' : ∀ name ∈ later.children place,
      ∃ answer, later.isFile (directory.child name) = .ok answer := by
    intro name child
    by_cases written : place ++ [name] ∈ writes.map Prod.fst
    · obtain ⟨-, reached, leads⟩ := hidden name written
      exact answers_of_located ((same name).trans leads)
    · have child' := mem_children_iff.2 (overlaid.ne_none_of_unwritten written (mem_children_iff.1 child))
      rw [answers_iff, same]
      exact answers_iff.1 (answered name child')
  have readable : later.meets place .unreadable = false := by
    rw [meets_congr overlaid.obstacles, readable_of_listFiles listed located]
  have listed' : later.listFiles directory suffix = .ok _ :=
    listFiles_of_list (list_of_located located' there' readable) answered'
  refine listed'.trans (congrArg _ ?_)
  refine listFiles_unique listed' listed overlaid.distinct distinct fun path => ?_
  rw [mem_listFiles_iff listed' located' nonempty unlinked', mem_listFiles_iff listed located nonempty unlinked]
  refine exists_congr fun name => and_congr_right fun child => and_congr_right fun suffixed => ?_
  rw [isFile_iff, isFile_iff, child, same]
  refine exists_congr fun reached => ?_
  rw [exists_and_left, exists_and_left]
  refine and_congr_right fun leads => overlaid.file_iff fun written => ?_
  have named := Path.suffix_ne suffixed nonempty
  rw [child, Path.name_child] at named
  rw [((locate_child_eq_ok_iff located there (unlinked name) named).1 leads).2.2.2] at written
  exact (hidden name written).1 (child ▸ suffixed)

/-- A directory of files whose names can be looked up. -/
theorem listFiles_of_files (located : files.locate directory = .ok place)
    (there : files.lookup? place = some .directory) (readable : files.meets place .unreadable = false)
    (passable : files.meets place .impassable = false)
    (unlinked : ∀ name target, files.lookup? (place ++ [name]) ≠ some (.link target)) (nonempty : suffix ≠ "")
    (held : ∀ name ∈ files.children place, (directory.child name).suffix = suffix ∧
      checkText (directory.child name).text = .ok () ∧ name.utf8ByteSize ≤ nameLimit ∧
      ∃ content, files.lookup? (place ++ [name]) = some (.file content)) :
    files.listFiles directory suffix = .ok ((files.children place).map directory.child) := by
  have found (name : String) (mem : name ∈ files.children place) :
      files.isFile (directory.child name) = .ok true := by
    obtain ⟨suffixed, checked, short, content, file⟩ := held name mem
    have named := Path.suffix_ne suffixed nonempty
    rw [Path.name_child] at named
    exact isFile_iff.2 ⟨_, content,
      (locate_child_eq_ok_iff located there (unlinked name) named).2 ⟨checked, passable, short, rfl⟩, file⟩
  rw [listFiles_of_list (list_of_located located there readable) fun name mem => ⟨true, found name mem⟩,
    List.filter_eq_self.2]
  intro name mem
  exact lists_iff.2 ⟨found name mem, (held name mem).1⟩

/-- Nothing is listed of a directory with an entry that cannot be looked up. -/
theorem listFiles_ne_ok (located : files.locate directory = .ok place) {name : String}
    (mem : name ∈ files.children place) (long : files.locate (directory.child name) = .error .nameTooLong) :
    files.listFiles directory suffix ≠ .ok paths := by
  intro listed
  obtain ⟨-, answered, -⟩ := below_of_listFiles listed located
  exact absurd (answers_iff.1 (answered name mem) _ long) (by decide)

end ViewModel.Files.FileSystem
