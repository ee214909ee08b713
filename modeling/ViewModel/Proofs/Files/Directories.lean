import ViewModel.Proofs.Files.Endings

/-!
# Making directories

Making a directory, and those above it, adds directories and nothing else.

* `adds_makeDirectories`: what is added;
* `isDirectory_of_makeDirectories`: the directory is there once making it succeeds;
* `makeDirectories_of_isDirectory`: a directory that is there is not made again.
-/

namespace ViewModel.Files.FileSystem

variable {files later last : FileSystem}

theorem locateLink_of_parent {path : Path} {last : String} (ends : path.parts.getLast? = some last)
    (named : last ≠ ".") (checked : checkText path.text = .ok ()) {above : Location}
    (located : files.locate (parentOf path) = .ok above) (there : files.lookup? above = some .directory) :
    files.locateLink path = files.onward above last := by
  unfold locateLink
  rw [ends]
  change (checkText path.text >>= fun _ => files.locate (parentOf path) >>= _) = _
  rw [checked, located]
  dsimp only [bind, Except.bind]
  rw [there, onward, if_neg named]

/-- A path whose last step is not followed as a link, taken apart at that step. -/
theorem locateLink_eq_ok {path : Path} {last : String} (ends : path.parts.getLast? = some last)
    (named : last ≠ ".") {place : Location} (h : files.locateLink path = .ok place) :
    ∃ above, checkText path.text = .ok () ∧ files.locate (parentOf path) = .ok above ∧
      files.lookup? above = some .directory ∧ files.onward above last = .ok place := by
  have whole := h
  unfold locateLink at h
  rw [ends] at h
  change (checkText path.text >>= fun _ => files.locate (parentOf path) >>= _) = _ at h
  cases checked : checkText path.text with
  | error cause => rw [checked] at h; cases h
  | ok =>
    cases located : files.locate (parentOf path) with
    | error cause => rw [checked, located] at h; cases h
    | ok above =>
      rw [checked, located] at h
      dsimp only [bind, Except.bind] at h
      have there : files.lookup? above = some .directory := by
        split at h
        · cases h
        · assumption
        · cases h
      rw [locateLink_of_parent ends named checked located there] at whole
      exact ⟨above, rfl, rfl, there, whole⟩

/-- Where a path leads whose last step is a name, without following a link there. -/
theorem place_of_locateLink {path : Path} {last : String} (ends : path.parts.getLast? = some last)
    (named : last ≠ "." ∧ last ≠ "..") {place : Location} (h : files.locateLink path = .ok place) :
    ∃ above, place = above ++ [last] := by
  obtain ⟨above, -, -, -, leads⟩ := locateLink_eq_ok ends named.1 h
  exact ⟨above, ((onward_eq_ok_iff named).1 leads).2.2⟩

theorem remove_eq_ok {path : Path} {cleared : FileSystem} (h : files.remove path = .ok cleared) :
    ∃ place, files.locateLink path = .ok place ∧ files.lookup? place ≠ some .directory ∧
      cleared = files.erase place := by
  unfold remove at h
  cases located : files.locateLink path with
  | error cause => rw [located] at h; cases h
  | ok place =>
    rw [located] at h
    dsimp only at h
    cases held : files.lookup? place with
    | none => rw [held] at h; cases h
    | some entry =>
      rw [held] at h
      dsimp only at h
      split at h
      · split at h
        · cases h
        · rename_i solid
          cases h
          exact ⟨place, rfl, fun there => solid (Option.some.inj (held.symm.trans there)), rfl⟩
      · cases h

theorem create_eq_ok {path : Path} {entry : Entry} {made : FileSystem}
    (h : files.create path entry = .ok made) :
    ∃ place, files.locateLink path = .ok place ∧ files.lookup? place = none ∧ made = files.put place entry := by
  unfold create at h
  cases located : files.locateLink path with
  | error cause => rw [located] at h; cases h
  | ok place =>
    rw [located] at h
    dsimp only at h
    cases free : files.lookup? place with
    | some entry => rw [free] at h; cases h
    | none =>
      rw [free] at h
      dsimp only at h
      split at h
      · cases h
        exact ⟨place, rfl, free, rfl⟩
      · cases h

theorem write_of_located {path : Path} {place : Location} (located : files.locate path = .ok place)
    (solid : files.lookup? place ≠ some .directory) (content : List UInt8) :
    files.write path content =
      if files.permitsWriting place then .ok (files.put place (.file content)) else .error ⟨.denied, path⟩ := by
  rw [write, located]
  dsimp only
  split
  · exact absurd ‹_› solid
  · rfl

theorem write_eq_ok {path : Path} {content : List UInt8} {written : FileSystem}
    (h : files.write path content = .ok written) :
    ∃ place, files.locate path = .ok place ∧ files.lookup? place ≠ some .directory ∧
      files.permitsWriting place = true ∧ written = files.put place (.file content) := by
  unfold write at h
  cases located : files.locate path with
  | error cause => rw [located] at h; cases h
  | ok place =>
    rw [located] at h
    dsimp only at h
    split at h
    · cases h
    · rename_i solid
      split at h
      · rename_i permitted
        cases h
        exact ⟨place, rfl, solid, permitted, rfl⟩
      · cases h

theorem adds_create {path : Path} {made : FileSystem} (h : files.create path .directory = .ok made) :
    Adds files made := by
  obtain ⟨place, -, free, rfl⟩ := create_eq_ok h
  exact adds_put_directory free

/-- A directory that was made is there. -/
theorem isDirectory_of_create {path : Path} {made : FileSystem} (dotless : path.parts.getLast? ≠ some ".")
    (h : files.create path .directory = .ok made) : made.isDirectory path = .ok true := by
  have keeps := (adds_create h).keeps
  obtain ⟨place, located, free, rfl⟩ := create_eq_ok h
  have inside : place ≠ [] := ne_nil_of_lookup? (by rw [free]; exact nofun)
  have there : (files.put place .directory).lookup? place = some .directory := by
    rw [lookup?_put files _ place inside, if_pos rfl]
  cases ends : path.parts.getLast? with
  | none =>
    rw [locateLink, ends] at located
    exact isDirectory_iff.2 ⟨place, keeps.locate located, there⟩
  | some last =>
    have named : last ≠ "." := fun same => dotless (same ▸ ends)
    obtain ⟨above, checked, held, directory, leads⟩ := locateLink_eq_ok ends named located
    have walked := (locate_eq_ok_iff.1 (keeps.locate held)).2
    have linkless : (files.put place .directory).link? above last = none := by
      refine Option.eq_none_iff_forall_ne_some.2 fun target found => ?_
      obtain ⟨named, link⟩ := link?_eq_some_iff.1 found
      rw [← ((onward_eq_ok_iff named).1 leads).2.2, there] at link
      cases link
    have stepped (left : Nat) : (files.put place .directory).walk left above [last] = .ok place :=
      (walk_of_linkless (keeps.directory above directory) linkless left).trans leads
    refine isDirectory_iff.2 ⟨place, locate_eq_ok_iff.2 ⟨checked, ?_⟩, there⟩
    rw [parts_of_getLast? ends]
    exact walk_append walked stepped

/-! The ways to make a directory, and those above it: at once, after those above it, or not at all. -/

theorem ensure_of_created {made : FileSystem} {root name : String} {above : List String} {path : Path}
    (created : files.create path .directory = .ok made) (named : path = ⟨root, (name :: above).reverse⟩) :
    files.ensure root (name :: above) = (.ok (), made) := by
  rw [ensure, ← named, created]

theorem ensure_of_missing {root name : String} {above : List String} {path : Path}
    (missing : files.create path .directory = .error ⟨.missing, path⟩)
    (named : path = ⟨root, (name :: above).reverse⟩) :
    files.ensure root (name :: above) =
      match files.ensure root above with
      | (.error error, made) => (.error error, made)
      | (.ok (), made) =>
        match made.ensureOne path with
        | .ok made => (.ok (), made)
        | .error error => (.error error, made) := by
  rw [ensure, ← named, missing]
  exact if_pos rfl

theorem ensure_of_failed {root name : String} {above : List String} {path : Path}
    {error : Error} (failed : files.create path .directory = .error error)
    (met : error.cause ≠ .missing) (absent : files.isDirectory path = .ok false)
    (named : path = ⟨root, (name :: above).reverse⟩) :
    files.ensure root (name :: above) = (.error error, files) := by
  rw [ensure, ← named, failed]
  dsimp only
  rw [if_neg met, settle, absent]

theorem isDirectory_of_settle {path : Path} {error : Error} (h : files.settle path error = .ok ()) :
    files.isDirectory path = .ok true := by
  unfold settle at h
  split at h
  · assumption
  · cases h
  · cases h

theorem adds_ensureOne {path : Path} {made : FileSystem} (h : files.ensureOne path = .ok made) :
    Adds files made := by
  unfold ensureOne at h
  cases created : files.create path .directory with
  | ok made' =>
    rw [created] at h
    cases h
    exact adds_create created
  | error error =>
    rw [created] at h
    dsimp only at h
    cases settled : files.settle path error with
    | error other => rw [settled] at h; cases h
    | ok => rw [settled] at h; cases h; exact Adds.refl files

theorem isDirectory_of_ensureOne {path : Path} {made : FileSystem} (dotless : path.parts.getLast? ≠ some ".")
    (h : files.ensureOne path = .ok made) : made.isDirectory path = .ok true := by
  unfold ensureOne at h
  cases created : files.create path .directory with
  | ok made' =>
    rw [created] at h
    cases h
    exact isDirectory_of_create dotless created
  | error error =>
    rw [created] at h
    dsimp only at h
    cases settled : files.settle path error with
    | error other => rw [settled] at h; cases h
    | ok => rw [settled] at h; cases h; exact isDirectory_of_settle settled

/-- Making directories only adds some, whether it succeeds or not. -/
theorem adds_ensure (files : FileSystem) (root : String) (names : List String) :
    Adds files (files.ensure root names).2 := by
  induction names with
  | nil => exact Adds.refl files
  | cons name above ih =>
    rw [ensure]
    cases created : files.create ⟨root, (name :: above).reverse⟩ .directory with
    | ok made => exact adds_create created
    | error error =>
      dsimp only
      split
      · split
        · rename_i error' made ensured
          rwa [ensured] at ih
        · rename_i made ensured
          rw [ensured] at ih
          split
          · rename_i made' one
            exact ih.trans (adds_ensureOne one)
          · exact ih
      · exact Adds.refl files

/-- Once making a directory succeeds, it is there. -/
theorem isDirectory_of_ensure {root name : String} {above : List String} {made : FileSystem}
    (dotless : name ≠ ".") (h : files.ensure root (name :: above) = (.ok (), made)) :
    made.isDirectory ⟨root, (name :: above).reverse⟩ = .ok true := by
  have dotless : (name :: above).reverse.getLast? ≠ some "." := by
    rw [List.getLast?_reverse, List.head?_cons]
    exact fun same => dotless (Option.some.inj same)
  rw [ensure] at h
  cases created : files.create ⟨root, (name :: above).reverse⟩ .directory with
  | ok made' =>
    rw [created] at h
    cases h
    exact isDirectory_of_create dotless created
  | error error =>
    rw [created] at h
    dsimp only at h
    split at h
    · split at h
      · cases h
      · split at h
        · rename_i one
          cases h
          exact isDirectory_of_ensureOne dotless one
        · cases h
    · obtain ⟨settled, rfl⟩ := Prod.mk.inj h
      exact isDirectory_of_settle settled

theorem adds_makeDirectories (files : FileSystem) (path : Path) : Adds files (files.makeDirectories path).2 :=
  adds_ensure files path.root path.parts.reverse

/-- Where paths start a directory is. -/
theorem isDirectory_of_start {path : Path} (proper : path.Proper) (top : path.parts = [])
    (here : files.lookup? files.here = some .directory) : files.isDirectory path = .ok true := by
  obtain ⟨root, parts⟩ := path
  cases top
  refine isDirectory_iff.2 ⟨start ⟨root, []⟩ files.here, locate_eq_ok_iff.2 ⟨?_, walk_nil _ _⟩, ?_⟩
  · rcases proper.root with rfl | rfl | rfl <;> rw [checkText, if_neg (by decide), if_neg (by decide)]
  · rcases proper.root with rfl | rfl | rfl
    · exact here
    · rfl
    · rfl

/-- Once making the directory of a path succeeds, it is there. -/
theorem isDirectory_of_makeDirectories {path : Path} (proper : path.Proper)
    (here : files.lookup? files.here = some .directory) {made : FileSystem}
    (h : files.makeDirectories path = (.ok (), made)) : made.isDirectory path = .ok true := by
  rw [makeDirectories] at h
  cases names : path.parts.reverse with
  | nil =>
    rw [names] at h
    cases h
    exact isDirectory_of_start proper (List.reverse_eq_nil_iff.1 names) here
  | cons name above =>
    have parts : path.parts = (name :: above).reverse := by rw [← names, List.reverse_reverse]
    have same : (⟨path.root, (name :: above).reverse⟩ : Path) = path := by rw [← parts]
    have named : name ≠ "." := by
      rintro rfl
      exact proper.dotless (List.mem_reverse.1 (names ▸ List.mem_cons_self))
    rw [names] at h
    exact same ▸ isDirectory_of_ensure named h

/-! ## Directories that are there -/

/-- The part of a child's text that does not depend on its name. -/
def opening (directory : Path) : String :=
  directory.root ++ if directory.parts = [] then "" else "/".intercalate directory.parts ++ "/"

theorem text_child (directory : Path) (name : String) :
    (directory.child name).text = opening directory ++ name := by
  have named : (directory.parts ++ [name] == []) = false := by simp
  rw [Path.text, Path.child, named, Bool.and_false, opening]
  by_cases top : directory.parts = []
  · simp [top]
  · rw [String.intercalate_append_of_ne_nil top (List.cons_ne_nil _ _)]
    simp [top, String.append_assoc]

theorem text_child_of_ne_nil {directory : Path} (inside : directory.parts ≠ []) (name : String) :
    (directory.child name).text = directory.text ++ "/" ++ name := by
  have named : (directory.parts == []) = false := beq_false_of_ne inside
  rw [text_child, opening, if_neg inside, Path.text, named, Bool.and_false, ← String.append_assoc]
  rfl

theorem checkText_eq_ok_iff {text : String} :
    checkText text = .ok () ↔ '\x00' ∉ text.toList ∧ text.utf8ByteSize ≤ pathLimit := by
  unfold checkText
  by_cases zero : '\x00' ∈ text.toList
  · simp [zero]
  · by_cases long : pathLimit < text.utf8ByteSize
    · simp [zero, long]
    · simp [zero, long, Nat.not_lt.1 long]

theorem checkText_of_long {text : String} (zero : '\x00' ∉ text.toList) (long : pathLimit < text.utf8ByteSize) :
    checkText text = .error .nameTooLong := by
  simp [checkText, zero, long]

/-- A text that can be looked up can be with a shorter ending. -/
theorem checkText_of_shorter {text ending other : String} (h : checkText (text ++ ending) = .ok ())
    (shorter : other.utf8ByteSize ≤ ending.utf8ByteSize) (zero : '\x00' ∉ other.toList) :
    checkText (text ++ other) = .ok () := by
  obtain ⟨zero', short⟩ := checkText_eq_ok_iff.1 h
  rw [String.toList_append, List.mem_append, not_or] at zero'
  rw [String.utf8ByteSize_append] at short
  refine checkText_eq_ok_iff.2 ⟨?_, ?_⟩
  · rw [String.toList_append, List.mem_append, not_or]
    exact ⟨zero'.1, zero⟩
  · rw [String.utf8ByteSize_append]
    omega

theorem checkText_of_append {text more : String} (h : checkText (text ++ more) = .ok ()) :
    checkText text = .ok () := by
  have short : checkText (text ++ "") = .ok () := checkText_of_shorter h (Nat.zero_le _) List.not_mem_nil
  rwa [String.append_empty] at short

/-- If a path can be looked up, so can the path of the directory it is in. -/
theorem checkText_parentOf {path : Path} {last : String} (ends : path.parts.getLast? = some last)
    (h : checkText path.text = .ok ()) : checkText (parentOf path).text = .ok () := by
  have whole : path = (parentOf path).child last := by
    rw [Path.child, ← parts_of_getLast? ends]
    rfl
  rw [whole, text_child, opening] at h
  rw [Path.text]
  split
  · rfl
  · by_cases top : (parentOf path).parts = []
    · simp only [top, if_true] at h ⊢
      exact checkText_of_append h
    · simp only [top, if_false, ← String.append_assoc] at h
      exact checkText_of_append (checkText_of_append h)

/-- Nothing is made where a directory is. -/
theorem create_of_isDirectory {path : Path} (h : files.isDirectory path = .ok true)
    (dotless : path.parts.getLast? ≠ some ".") (entry : Entry) :
    files.create path entry = .error ⟨.occupied, path⟩ := by
  obtain ⟨place, located, there⟩ := isDirectory_iff.1 h
  suffices ∃ reached held, files.locateLink path = .ok reached ∧ files.lookup? reached = some held by
    obtain ⟨reached, held, way, found⟩ := this
    rw [create, way]
    dsimp only
    rw [found]
  cases ends : path.parts.getLast? with
  | none =>
    refine ⟨place, .directory, ?_, there⟩
    rw [locateLink, ends]
    exact located
  | some last =>
    have named : last ≠ "." := fun same => dotless (same ▸ ends)
    obtain ⟨checked, walked⟩ := locate_eq_ok_iff.1 located
    rw [parts_of_getLast? ends] at walked
    obtain ⟨left, above, before, step⟩ := exists_of_walk_append walked
    have held : files.locate (parentOf path) = .ok above :=
      locate_eq_ok_iff.2 ⟨checkText_parentOf ends checked, before⟩
    rw [walk_cons] at step
    cases advanced : files.advance left above last with
    | error cause => rw [advanced] at step; cases step
    | ok stage =>
      obtain ⟨reached, leads, way⟩ := onward_of_advance advanced
      have linked := locateLink_of_parent ends named checked held (directory_of_advance advanced)
      rw [leads] at linked
      rcases way with rfl | ⟨target, link⟩
      · rw [advanced] at step
        change files.walk left reached [] = _ at step
        rw [walk_nil] at step
        cases step
        exact ⟨place, .directory, linked, there⟩
      · exact ⟨reached, .link target, linked, link⟩

/-- Directories that are there are not made again. -/
theorem makeDirectories_of_isDirectory {path : Path} (dotless : "." ∉ path.parts)
    (h : files.isDirectory path = .ok true) : files.makeDirectories path = (.ok (), files) := by
  rw [makeDirectories]
  cases names : path.parts.reverse with
  | nil => rfl
  | cons name above =>
    have parts : path.parts = (name :: above).reverse := by rw [← names, List.reverse_reverse]
    have same : (⟨path.root, (name :: above).reverse⟩ : Path) = path := by rw [← parts]
    have last : path.parts.getLast? ≠ some "." := by
      intro ends
      exact dotless (List.mem_of_getLast? ends)
    rw [ensure, same, create_of_isDirectory h last]
    dsimp only
    rw [if_neg (by decide), settle, h]

end ViewModel.Files.FileSystem
