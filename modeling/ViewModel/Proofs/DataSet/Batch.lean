import ViewModel.Proofs.DataSet.Convert

/-!
# Batches of data sets

A batch with a listener, one data set after the other, in a file system that changes on the way. What a
data set comes to depends on nothing that the others leave.

* `heard_listening`: conversions that each come to what they come to alone, while something holds that
  every one of them passes on;
* `Reached`, `Reached.step`: nothing has changed until the first module is known, and from then on the
  directory is there, with the modules so far;
* `lookup_products`: every data set is found under its own module.
-/

namespace ViewModel.DataSet

open Schema Files Literal

variable {σ α β : Type}

/-- How a step with a listener ends, and what the listener and the files are then. -/
def heard (step : StateT σ FileStep α) (state : σ) (files : FileSystem) : (α × σ) × FileSystem :=
  ((step.run state).run files).value

theorem heard_bind (first : StateT σ FileStep α) (next : α → StateT σ FileStep β) (state : σ)
    (files : FileSystem) :
    heard (first >>= next) state files =
      heard (next (heard first state files).1.1) (heard first state files).1.2 (heard first state files).2 :=
  rfl

theorem heard_lift (step : FileStep α) (state : σ) (files : FileSystem) :
    heard (liftM step) state files = (((step.run files).value.1, state), (step.run files).value.2) := rfl

variable (registry : Registry) (options : DataModule) (directory : Path) (hear : σ → String → Bool → σ)

theorem value_convertOne (path : Path) (files : FileSystem) :
    ((convertOne registry options directory path).run files).value =
      (⟨path.name, (convert registry options directory path).outcome files⟩,
        (convert registry options directory path).files files) := by
  unfold convertOne FileAction.outcome FileAction.files FileAction.runOn
  rw [StateT.run_bind, Logged.bind_value]
  rcases ((convert registry options directory path).run.run files).value with ⟨result, later⟩
  cases result <;> rfl

/-- A batch starts with the data sets that are selected. -/
theorem value_begin (sets directory : Path) (name : Option String) (files : FileSystem) :
    ((begin sets directory name).runOn files).value = (select files sets name, files) := by
  rw [begin, FileAction.value_runOn_bind_ok (FileAction.value_runOn_record _ _ _ files),
    FileAction.value_runOn_reading, Attempt.outcome_ofExcept]

def listeningOne (path : Path) : StateT σ FileStep Outcome := do
  let outcome ← liftM (convertOne registry options directory path)
  modify fun state => hear state outcome.file outcome.succeeded
  return outcome

def listening (paths : List Path) : StateT σ FileStep (List Outcome) :=
  convertEach registry options directory (fun file succeeded => modify fun state => hear state file succeeded)
    paths

theorem listening_cons (path : Path) (rest : List Path) :
    listening registry options directory hear (path :: rest) = do
      let outcome ← listeningOne registry options directory hear path
      let outcomes ← listening registry options directory hear rest
      return outcome :: outcomes := by
  change (path :: rest).mapM (listeningOne registry options directory hear) = _
  exact List.mapM_cons

theorem heard_listeningOne (path : Path) (state : σ) (files : FileSystem) :
    heard (listeningOne registry options directory hear path) state files =
      ((⟨path.name, (convert registry options directory path).outcome files⟩,
        hear state path.name ((convert registry options directory path).outcome files).isOk),
        (convert registry options directory path).files files) := by
  rw [listeningOne, heard_bind, heard_lift, value_convertOne]
  rfl

/-- Steps that come to what they come to alone, as long as something holds that each of them passes on. -/
theorem heard_listening {invariant : List Path → FileSystem → Prop} {alone : Path → Except Error Path}
    {paths : List Path}
    (step : ∀ done path files, path ∈ paths → invariant done files →
      (convert registry options directory path).outcome files = alone path ∧
        invariant (path :: done) ((convert registry options directory path).files files))
    {done : List Path} {files : FileSystem} (start : invariant done files) (state : σ) :
    ∃ after, heard (listening registry options directory hear paths) state files =
        ((paths.map fun path => ⟨path.name, alone path⟩,
          paths.foldl (fun state path => hear state path.name (alone path).isOk) state), after) ∧
      invariant (paths.reverse ++ done) after := by
  induction paths generalizing done files state with
  | nil => exact ⟨files, rfl, start⟩
  | cons path rest ih =>
    obtain ⟨outcome, next⟩ := step done path files List.mem_cons_self start
    obtain ⟨after, later, last⟩ :=
      ih (fun done path files mem => step done path files (List.mem_cons_of_mem _ mem)) next
        (hear state path.name (alone path).isOk)
    refine ⟨after, ?_, ?_⟩
    · rw [listening_cons, heard_bind, heard_listeningOne, outcome, heard_bind, later]
      rfl
    · rw [List.reverse_cons, List.append_assoc]
      exact last

/-! ## What a batch leaves -/

def products (paths : List Path) (base : FileSystem) : List (Location × List UInt8) :=
  paths.flatMap fun path => (product registry options directory path base).toOption.toList

/-- A data set has a module if it can be written. -/
def Known (path : Path) (files : FileSystem) : Prop :=
  ∃ text, (readModule registry options path files).outcome = .ok text

/-- What is left of a file system after some data sets: nothing has changed until the first module is
known, and from then on the directory is there with the modules. -/
structure Reached (files made : FileSystem) (done : List Path) (reached : FileSystem) : Prop where
  still : (∀ path ∈ done, ¬ Known registry options path made) → reached = files
  grown : (∃ path ∈ done, Known registry options path made) →
    Written [] made (products registry options directory done made) reached

variable {registry options directory} {files made : FileSystem}

theorem product_of_error {path : Path} {error : Error}
    (h : (readModule registry options path files).outcome = .error error) :
    product registry options directory path files = .error error := by
  unfold product
  rw [h]

theorem not_known_of_error {path : Path} {error : Error}
    (h : (readModule registry options path files).outcome = .error error) :
    ¬ Known registry options path files := by
  rintro ⟨text, known⟩
  rw [h] at known
  cases known

/-- Data sets without a text have no modules. -/
theorem products_of_unknown {paths : List Path} (none : ∀ path ∈ paths, ¬ Known registry options path files) :
    products registry options directory paths files = [] := by
  refine List.flatMap_eq_nil_iff.2 fun path mem => ?_
  cases known : (readModule registry options path files).outcome with
  | error error =>
    rw [product_of_error known]
    rfl
  | ok text => exact absurd ⟨text, known⟩ (none path mem)

theorem Reached.start : Reached registry options directory files made [] files :=
  ⟨fun _ => rfl, fun ⟨_, mem, _⟩ => absurd mem List.not_mem_nil⟩

/-- Once a module is known, places hold modules, or what they hold in the directory that was made. -/
theorem Reached.lookup? {done : List Path} {reached : FileSystem}
    (h : Reached registry options directory files made done reached)
    (known : ∃ path ∈ done, Known registry options path made) (place : Location) :
    reached.lookup? place =
      (((products registry options directory done made).lookup place).map Entry.file).or (made.lookup? place) :=
  (h.grown known).held place List.not_mem_nil

/-- Data sets that are converted once more leave what they left before. -/
theorem Reached.lookup?_again {paths : List Path} {after last : FileSystem}
    (h : Reached registry options directory files made paths.reverse after)
    (h' : Reached registry options directory files made (paths.reverse ++ paths.reverse) last)
    (place : Location) : last.lookup? place = after.lookup? place := by
  by_cases known : ∃ path ∈ paths.reverse, Known registry options path made
  · have known' : ∃ path ∈ paths.reverse ++ paths.reverse, Known registry options path made := by
      obtain ⟨path, mem, found⟩ := known
      exact ⟨path, List.mem_append_left _ mem, found⟩
    rw [h.lookup? known, h'.lookup? known', products, List.flatMap_append, ← products, List.lookup_append,
      Option.or_self]
  · rw [h.still fun path mem found => known ⟨path, mem, found⟩, h'.still]
    intro path mem found
    exact known ⟨path, (List.mem_append.1 mem).elim id id, found⟩

/-- Every data set comes to what it comes to once the directory is there. -/
theorem Reached.step (proper : directory.Proper) (here : files.lookup? files.here = some .directory)
    (ensured : files.makeDirectories directory = (.ok (), made)) (site : Site [] made directory)
    {path : Path} (data : IsDataSet files path) {done : List Path} {reached : FileSystem}
    (h : Reached registry options directory files made done reached) :
    ∃ after, ((convert registry options directory path).runOn reached).value =
        ((product registry options directory path made).map fun _ => modulePath directory path, after) ∧
      Reached registry options directory files made (path :: done) after := by
  have adds := adds_of_made ensured
  have data' := data.of_adds adds
  by_cases any : ∃ path ∈ done, Known registry options path made
  · obtain ⟨after, value, written⟩ := (h.grown any).step registry options site data'
    refine ⟨after, value, fun none => ?_, fun _ => written⟩
    obtain ⟨path, mem, known⟩ := any
    exact absurd known (none path (List.mem_cons_of_mem _ mem))
  · have none : ∀ path ∈ done, ¬ Known registry options path made :=
      fun path mem known => any ⟨path, mem, known⟩
    have value := value_convert_of_made registry options proper here ensured data
    rw [h.still none]
    rw [← data.readModule_eq registry options adds] at value
    cases known : (readModule registry options path made).outcome with
    | error error =>
      rw [known] at value
      have none' : ∀ other ∈ path :: done, ¬ Known registry options other made :=
        List.forall_mem_cons.2 ⟨not_known_of_error known, none⟩
      refine ⟨files, ?_, fun _ => rfl, fun ⟨other, mem, found⟩ => absurd found (none' other mem)⟩
      rw [value, product_of_error known]
      rfl
    | ok text =>
      rw [known] at value
      have fresh : Written [] made [] made :=
        ⟨FileSystem.Overlaid.refl site.distinct fun _ mem => absurd mem List.not_mem_nil,
          fun _ mem => absurd mem List.not_mem_nil⟩
      obtain ⟨after, value', written⟩ := fresh.step registry options site data'
      refine ⟨after, value.trans value', fun none => ?_, fun _ => ?_⟩
      · exact absurd ⟨text, known⟩ (none path List.mem_cons_self)
      · have later : products registry options directory done made = [] := products_of_unknown none
        rw [products] at later
        rw [products, List.flatMap_cons, later]
        exact written

/-! ## Modules of their own -/

theorem mem_products_iff {paths : List Path} {write : Location × List UInt8} :
    write ∈ products registry options directory paths files ↔
      ∃ path ∈ paths, product registry options directory path files = .ok write := by
  rw [products, List.mem_flatMap]
  refine exists_congr fun path => and_congr_right fun _ => ?_
  cases product registry options directory path files <;> simp [Except.toOption, eq_comm]

section

variable {sets : Path} {paths : List Path}

theorem eq_of_moduleName (listed : files.listFiles sets suffix = .ok paths) {path other : Path}
    (mem : path ∈ paths) (mem' : other ∈ paths) (same : moduleName path = moduleName other) :
    path = other := by
  have named {path : Path} (mem : path ∈ paths) : path.name = path.stem ++ suffix := by
    rw [← (FileSystem.isFile_of_mem listed mem).2, Path.stem_append_suffix]
  have stems : path.stem = other.stem := String.append_left_inj _ |>.1 same
  rw [FileSystem.eq_child_of_mem listed mem, FileSystem.eq_child_of_mem listed mem', named mem, named mem', stems]

/-- Every data set is found under its own module. -/
theorem lookup_products {free : List Location} {base : FileSystem} (site : Site free base directory)
    (data : ∀ path ∈ paths, IsDataSet base path)
    (apart : ∀ path ∈ paths, ∀ other ∈ paths, moduleName path = moduleName other → path = other)
    {path : Path} (mem : path ∈ paths) {place : Location} {content : List UInt8}
    (added : product registry options directory path base = .ok (place, content)) :
    (products registry options directory paths base).lookup place = some content := by
  obtain ⟨above, held, -⟩ := FileSystem.isDirectory_iff.1 site.there
  have placed {path : Path} (mem : path ∈ paths) {place : Location} {content : List UInt8}
      (added : product registry options directory path base = .ok (place, content)) :
      place = above ++ [moduleName path] := by
    obtain ⟨-, -, located, -, -, -⟩ := product_eq_ok added
    exact site.place_of_located (data path mem) held located
  cases found : (products registry options directory paths base).lookup place with
  | none =>
    have unheld := List.lookup_eq_none_iff.1 found (place, content) (mem_products_iff.2 ⟨path, mem, added⟩)
    exact absurd rfl (bne_iff_ne.1 unheld)
  | some other =>
    obtain ⟨path', mem', added'⟩ := mem_products_iff.1 (FileSystem.mem_of_lookup found)
    have names : above ++ [moduleName path] = above ++ [moduleName path'] := by
      rw [← placed mem added, ← placed mem' added']
    have same := apart path mem path' mem' (List.singleton_inj.1 (List.append_cancel_left names))
    rw [← same, added] at added'
    cases added'
    rfl

/-- Where a path is looked up, it can be looked up with the shorter ending of a module. -/
theorem locate_moduleName {place : Location} (located : files.locate sets = .ok place)
    (there : files.lookup? place = some .directory)
    (unlinked : ∀ place target, files.lookup? place ≠ some (.link target)) {path : Path}
    (child : path = sets.child path.name) (suffixed : path.suffix = suffix) {reached : Location}
    (found : files.locate path = .ok reached) :
    files.locate (sets.child (moduleName path)) = .ok (place ++ [moduleName path]) := by
  have named : path.name = path.stem ++ suffix := by rw [← suffixed, Path.stem_append_suffix]
  have plain := Path.suffix_ne suffixed (by decide)
  rw [child] at found
  obtain ⟨checked, passable, short, -⟩ :=
    (FileSystem.locate_child_eq_ok_iff located there (unlinked _) plain).1 found
  rw [FileSystem.text_child, named, ← String.append_assoc] at checked
  rw [named, String.utf8ByteSize_append] at short
  refine (FileSystem.locate_child_eq_ok_iff located there (unlinked _) (moduleName_named path)).2
    ⟨?_, passable, ?_, rfl⟩
  · rw [FileSystem.text_child, moduleName, ← String.append_assoc]
    exact FileSystem.checkText_of_shorter checked (by decide) (by decide)
  · have shorter : TypesModule.moduleSuffix.utf8ByteSize ≤ suffix.utf8ByteSize := by decide
    rw [moduleName, String.utf8ByteSize_append]
    omega

end

end ViewModel.DataSet
