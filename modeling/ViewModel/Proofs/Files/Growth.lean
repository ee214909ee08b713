import ViewModel.Proofs.Files.Removal

/-!
# Growing file systems

A file system that grows keeps its directories and its links, so a path that led somewhere leads there
still, whatever becomes of the contents of files.

* `Keeps`: directories and links stay, and no link is new;
* `Keeps.walk`, `Keeps.locate`, `Keeps.isDirectory`: what could be found is found at the same place;
* `Adds`: everything stays, and nothing is new but directories;
* `Holds`: what a file holds, whether it may be read or not;
* `walk_append`, `locate_child`: a walk that goes on from where another one ends.
-/

namespace ViewModel.Files.FileSystem

/-- Directories and links stay as they are, and no link is new. The same uses are forbidden. -/
structure Keeps (files later : FileSystem) : Prop where
  here : later.here = files.here
  obstacles : later.obstacles = files.obstacles
  directory : ∀ place, files.lookup? place = some .directory → later.lookup? place = some .directory
  link : ∀ place target, later.lookup? place = some (.link target) ↔ files.lookup? place = some (.link target)

variable {files later last : FileSystem}

theorem Keeps.refl (files : FileSystem) : Keeps files files :=
  ⟨rfl, rfl, fun _ there => there, fun _ _ => Iff.rfl⟩

theorem Keeps.trans (first : Keeps files later) (second : Keeps later last) : Keeps files last where
  here := second.here.trans first.here
  obstacles := second.obstacles.trans first.obstacles
  directory place there := second.directory place (first.directory place there)
  link place target := (second.link place target).trans (first.link place target)

/-! ## Where paths lead -/

theorem Keeps.link? (keeps : Keeps files later) (place : Location) (step : String) :
    later.link? place step = files.link? place step := by
  refine Option.ext fun target => ?_
  rw [link?_eq_some_iff, link?_eq_some_iff, keeps.link]

theorem Keeps.advance (keeps : Keeps files later) {links : Nat} {place : Location} {step : String}
    {stage : Stage} (h : files.advance links place step = .ok stage) :
    later.advance links place step = .ok stage := by
  obtain ⟨there, reached, leads, arrives⟩ := advance_eq_ok_iff.1 h
  refine advance_eq_ok_iff.2 ⟨keeps.directory place there, reached, ?_, ?_⟩
  · rwa [onward_congr keeps.obstacles]
  · rwa [keeps.link?]

theorem Keeps.walk (keeps : Keeps files later) {links : Nat} {place reached : Location}
    {steps : List String} (h : files.walk links place steps = .ok reached) :
    later.walk links place steps = .ok reached := by
  induction links, place, steps using walk_induction files with
  | done links place => rwa [walk_nil] at h ⊢
  | goesOn links place step rest ih =>
    rw [walk_cons] at h
    cases advanced : files.advance links place step with
    | error cause => rw [advanced] at h; cases h
    | ok stage =>
      rw [advanced] at h
      rw [walk_cons, keeps.advance advanced]
      exact ih stage advanced h

theorem Keeps.locate (keeps : Keeps files later) {path : Path} {place : Location}
    (h : files.locate path = .ok place) : later.locate path = .ok place := by
  obtain ⟨checked, walked⟩ := locate_eq_ok_iff.1 h
  refine locate_eq_ok_iff.2 ⟨checked, ?_⟩
  rw [keeps.here]
  exact keeps.walk walked

theorem isDirectory_iff {path : Path} :
    files.isDirectory path = .ok true ↔
      ∃ place, files.locate path = .ok place ∧ files.lookup? place = some .directory := by
  constructor
  · intro h
    unfold isDirectory leadsTo at h
    split at h
    · rename_i entry found
      obtain ⟨place, located, there⟩ := exists_of_stat found
      cases entry with
      | directory => exact ⟨place, located, there⟩
      | file | link => cases h
    · split at h <;> cases h
  · rintro ⟨place, located, there⟩
    have found : files.stat path = .ok .directory := by
      rw [stat, located]
      change files.present place = _
      rw [present, there]
    rw [isDirectory, leadsTo, found]

theorem Keeps.isDirectory (keeps : Keeps files later) {path : Path} (h : files.isDirectory path = .ok true) :
    later.isDirectory path = .ok true := by
  obtain ⟨place, located, there⟩ := isDirectory_iff.1 h
  exact isDirectory_iff.2 ⟨place, keeps.locate located, keeps.directory place there⟩

/-! ## Growing -/

theorem ne_nil_of_lookup? {place : Location} (h : files.lookup? place ≠ some .directory) : place ≠ [] := by
  rintro rfl
  exact h rfl

/-- A list is looked up for what it holds. -/
theorem mem_of_lookup {α : Type} {held : List (Location × α)} {place : Location} {value : α}
    (h : held.lookup place = some value) : (place, value) ∈ held := by
  obtain ⟨before, after, rfl, -⟩ := List.lookup_eq_some_iff.1 h
  exact List.mem_append_right before List.mem_cons_self

/-- What stands below the root is held. -/
theorem mem_entries_of_lookup? {place : Location} {entry : Entry} (h : files.lookup? place = some entry)
    (inside : place ≠ []) : (place, entry) ∈ files.entries := by
  rw [lookup?, if_neg inside] at h
  exact mem_of_lookup h

/-- Every place is held once. -/
def Distinct (files : FileSystem) : Prop := (files.entries.map Prod.fst).Nodup

theorem distinct_put (distinct : files.Distinct) (place : Location) (entry : Entry) :
    (files.put place entry).Distinct := by
  refine List.nodup_cons.2 ⟨?_, ?_⟩
  · intro mem
    obtain ⟨held, stays, same⟩ := List.mem_map.1 mem
    obtain ⟨-, apart⟩ := List.mem_filter.1 stays
    simp [same] at apart
  · exact List.Nodup.sublist (List.filter_sublist.map Prod.fst) distinct

/-- Whatever is there stays, and what is new is directories. -/
structure Adds (files later : FileSystem) : Prop where
  here : later.here = files.here
  obstacles : later.obstacles = files.obstacles
  held : ∀ place, later.lookup? place = files.lookup? place ∨
    files.lookup? place = none ∧ later.lookup? place = some .directory
  distinct : files.Distinct → later.Distinct

theorem Adds.refl (files : FileSystem) : Adds files files :=
  ⟨rfl, rfl, fun _ => .inl rfl, id⟩

theorem Adds.lookup? (adds : Adds files later) {place : Location} {entry : Entry}
    (there : files.lookup? place = some entry) : later.lookup? place = some entry := by
  rcases adds.held place with same | ⟨free, -⟩
  · rw [same, there]
  · rw [there] at free
    cases free

theorem Adds.lookup?_of_solid (adds : Adds files later) {place : Location}
    (solid : later.lookup? place ≠ some .directory) : files.lookup? place = later.lookup? place := by
  rcases adds.held place with same | ⟨-, new⟩
  · exact same.symm
  · exact absurd new solid

theorem Adds.trans (first : Adds files later) (second : Adds later last) : Adds files last where
  here := second.here.trans first.here
  obstacles := second.obstacles.trans first.obstacles
  held place := by
    rcases first.held place with same | ⟨free, new⟩
    · rw [← same]
      exact second.held place
    · exact .inr ⟨free, second.lookup? new⟩
  distinct h := second.distinct (first.distinct h)

theorem Adds.keeps (adds : Adds files later) : Keeps files later where
  here := adds.here
  obstacles := adds.obstacles
  directory _ there := adds.lookup? there
  link place target := by
    constructor
    · intro link
      rw [adds.lookup?_of_solid (by rw [link]; exact nofun), link]
    · exact adds.lookup?

/-- A directory takes the place of nothing. -/
theorem adds_put_directory {place : Location} (free : files.lookup? place = none) :
    Adds files (files.put place .directory) := by
  have inside : place ≠ [] := ne_nil_of_lookup? (by rw [free]; exact nofun)
  refine ⟨rfl, rfl, fun other => ?_, fun distinct => distinct_put distinct place .directory⟩
  rw [lookup?_put files _ other inside]
  by_cases same : other = place
  · subst same
    exact .inr ⟨free, if_pos rfl⟩
  · exact .inl (if_neg same)

/-- What follows a walk, whatever links it left to be followed, follows the whole. -/
theorem walk_append {links : Nat} {place between : Location} {before after : List String}
    {result : Except Cause Location} (h : files.walk links place before = .ok between)
    (next : ∀ left, files.walk left between after = result) :
    files.walk links place (before ++ after) = result := by
  induction links, place, before using walk_induction files with
  | done links place =>
    rw [walk_nil] at h
    cases h
    exact next links
  | goesOn links place step rest ih =>
    rw [walk_cons] at h
    rw [List.cons_append, walk_cons]
    cases advanced : files.advance links place step with
    | error cause => rw [advanced] at h; cases h
    | ok stage =>
      rw [advanced] at h
      dsimp only at h ⊢
      rw [← List.append_assoc]
      exact ih stage advanced h

/-- Where a single step leads that comes to no link. -/
theorem walk_of_linkless {place : Location} {step : String} (there : files.lookup? place = some .directory)
    (linkless : files.link? place step = none) (links : Nat) :
    files.walk links place [step] = files.onward place step := by
  rw [walk_cons, advance_eq there, linkless]
  cases files.onward place step with
  | error cause => rfl
  | ok reached => exact walk_nil links reached

theorem walk_of_unlinked {place : Location} {step : String} (there : files.lookup? place = some .directory)
    (unlinked : ∀ target, files.lookup? (place ++ [step]) ≠ some (.link target)) (links : Nat) :
    files.walk links place [step] = files.onward place step :=
  walk_of_linkless there (link?_of_unlinked unlinked) links

/-- Whether a way down meets directories only, before its last step, which all may be passed, and no link. -/
def straight (files : FileSystem) (place : Location) : List String → Bool
  | [] => true
  | step :: rest =>
    decide (files.lookup? place = some .directory) && !files.meets place .impassable &&
      decide (step ≠ "." ∧ step ≠ "..") && decide (step.utf8ByteSize ≤ nameLimit) &&
      !(files.lookup? (place ++ [step]) matches some (.link _)) && files.straight (place ++ [step]) rest

theorem Keeps.straight (keeps : Keeps files later) {place : Location} {steps : List String}
    (h : files.straight place steps = true) : later.straight place steps = true := by
  induction steps generalizing place with
  | nil => rfl
  | cons step rest ih =>
    simp only [FileSystem.straight, Bool.and_eq_true, decide_eq_true_eq] at h ⊢
    obtain ⟨⟨⟨⟨⟨there, passable⟩, named⟩, short⟩, unlinked⟩, h⟩ := h
    refine ⟨⟨⟨⟨⟨keeps.directory place there, ?_⟩, named⟩, short⟩, ?_⟩, ih h⟩
    · rwa [meets_congr keeps.obstacles]
    · cases found : later.lookup? (place ++ [step]) with
      | none => rfl
      | some entry =>
        cases entry with
        | directory | file => rfl
        | link target => rwa [(keeps.link _ _).1 found] at unlinked

/-- A straight way leads down, and the steps after it follow from there. -/
theorem walk_append_of_straight {place : Location} {steps : List String} (h : files.straight place steps = true)
    (links : Nat) (rest : List String) :
    files.walk links place (steps ++ rest) = files.walk links (place ++ steps) rest := by
  induction steps generalizing place with
  | nil => rw [List.nil_append, List.append_nil]
  | cons step steps ih =>
    simp only [straight, Bool.and_eq_true, decide_eq_true_eq, Bool.not_eq_true'] at h
    obtain ⟨⟨⟨⟨⟨there, passable⟩, named⟩, short⟩, unlinked⟩, h⟩ := h
    have unlinked : ∀ target, files.lookup? (place ++ [step]) ≠ some (.link target) := by
      intro target link
      rw [link] at unlinked
      cases unlinked
    rw [List.cons_append, walk_cons, advance_of_unlinked there unlinked,
      (onward_eq_ok_iff named).2 ⟨passable, short, rfl⟩]
    change files.walk links (place ++ [step]) (steps ++ rest) = _
    rw [ih h, List.append_assoc]
    rfl

theorem walk_of_straight {place : Location} {steps : List String} (h : files.straight place steps = true)
    (links : Nat) : files.walk links place steps = .ok (place ++ steps) := by
  have walked := walk_append_of_straight h links []
  rwa [List.append_nil, walk_nil] at walked

theorem locate_of_straight {path : Path} (checked : checkText path.text = .ok ())
    (h : files.straight (start path files.here) path.parts = true) :
    files.locate path = .ok (start path files.here ++ path.parts) :=
  locate_eq_ok_iff.2 ⟨checked, walk_of_straight h linkLimit⟩

/-- Where a child of a directory is, if it is no link. -/
theorem locate_child {directory : Path} {place : Location} {name : String}
    (located : files.locate directory = .ok place) (there : files.lookup? place = some .directory)
    (unlinked : ∀ target, files.lookup? (place ++ [name]) ≠ some (.link target)) :
    files.locate (directory.child name) =
      checkText (directory.child name).text >>= fun _ => files.onward place name := by
  have walked := (locate_eq_ok_iff.1 located).2
  rw [locate]
  exact congrArg _ (funext fun _ => walk_append walked (walk_of_unlinked there unlinked))

/-- Where a child of a directory is under a name that can be looked up. -/
theorem locate_child_eq_ok_iff {directory : Path} {place reached : Location} {name : String}
    (located : files.locate directory = .ok place) (there : files.lookup? place = some .directory)
    (unlinked : ∀ target, files.lookup? (place ++ [name]) ≠ some (.link target))
    (named : name ≠ "." ∧ name ≠ "..") :
    files.locate (directory.child name) = .ok reached ↔
      checkText (directory.child name).text = .ok () ∧ files.meets place .impassable = false ∧
        name.utf8ByteSize ≤ nameLimit ∧ reached = place ++ [name] := by
  rw [locate_child located there unlinked, ← onward_eq_ok_iff named]
  cases checkText (directory.child name).text with
  | error cause => exact ⟨nofun, fun h => nomatch h.1⟩
  | ok => exact ⟨fun h => ⟨rfl, h⟩, fun h => h.2⟩

/-- A child of a directory is looked for in the same way. -/
theorem Keeps.locate_child (keeps : Keeps files later) {directory : Path} {place : Location} {name : String}
    (located : files.locate directory = .ok place) (there : files.lookup? place = some .directory)
    (unlinked : ∀ target, files.lookup? (place ++ [name]) ≠ some (.link target)) :
    later.locate (directory.child name) = files.locate (directory.child name) := by
  rw [FileSystem.locate_child located there unlinked, ← onward_congr keeps.obstacles]
  refine FileSystem.locate_child (keeps.locate located) (keeps.directory place there) fun target link => ?_
  exact unlinked target ((keeps.link _ _).1 link)

/-- What is read depends on where the path leads, on what stands there, and on what is forbidden there. -/
theorem read_congr {path : Path} {place : Location} (located : files.locate path = .ok place)
    (located' : later.locate path = .ok place) (same : later.lookup? place = files.lookup? place)
    (obstacles : later.obstacles = files.obstacles) : later.read path = files.read path := by
  rw [read_of_located located, read_of_located located', contentAt, same, meets_congr obstacles,
    meets_congr obstacles, ← contentAt]

/-- A file that may be read, and whose content is sound. -/
theorem contentAt_eq_ok_iff {place : Location} {content : List UInt8} :
    files.contentAt place = .ok content ↔ files.lookup? place = some (.file content) ∧
      files.meets place .unreadable = false ∧ files.meets place .damaged = false := by
  unfold contentAt
  cases files.lookup? place with
  | none => simp
  | some entry =>
    cases entry with
    | link => simp
    | directory => cases files.meets place .unreadable <;> simp
    | file held =>
      cases files.meets place .unreadable with
      | true => simp
      | false => cases files.meets place .damaged <;> simp

/-- A file with that content stands where a path leads, whether it may be read or not. -/
def Holds (files : FileSystem) (path : Path) (content : List UInt8) : Prop :=
  ∃ place, files.locate path = .ok place ∧ files.lookup? place = some (.file content)

theorem read_eq_ok_iff {path : Path} {content : List UInt8} :
    files.read path = .ok content ↔
      ∃ place, files.locate path = .ok place ∧ files.contentAt place = .ok content := by
  constructor
  · exact exists_of_read
  · rintro ⟨place, located, held⟩
    rw [read_of_located located, held]
    rfl

/-- The path of the directory that a path's last step is taken from. -/
def parentOf (path : Path) : Path := { path with parts := path.parts.dropLast }

theorem parts_of_getLast? {path : Path} {last : String} (ends : path.parts.getLast? = some last) :
    path.parts = (parentOf path).parts ++ [last] := by
  obtain ⟨before, held⟩ := List.getLast?_eq_some_iff.1 ends
  rw [parentOf, held, List.dropLast_concat]

/-- Where a path leads whose last step is a name, and no link. -/
theorem place_of_locate {path : Path} {last : String} (ends : path.parts.getLast? = some last)
    (named : last ≠ "." ∧ last ≠ "..")
    (unlinked : ∀ above target, files.lookup? (above ++ [last]) ≠ some (.link target)) {place : Location}
    (h : files.locate path = .ok place) : ∃ above, place = above ++ [last] := by
  obtain ⟨-, walked⟩ := locate_eq_ok_iff.1 h
  rw [parts_of_getLast? ends] at walked
  obtain ⟨left, above, -, step⟩ := exists_of_walk_append walked
  have there : files.lookup? above = some .directory := by
    rw [walk_cons] at step
    cases advanced : files.advance left above last with
    | error cause => rw [advanced] at step; cases step
    | ok stage => exact directory_of_advance advanced
  rw [walk_of_unlinked there (unlinked above)] at step
  exact ⟨above, ((onward_eq_ok_iff named).1 step).2.2⟩

end ViewModel.Files.FileSystem
