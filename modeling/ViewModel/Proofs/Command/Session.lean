import ViewModel.Proofs.Command.Steps

/-!
# What a session leaves

Setting up a session makes the directory of its file, opens the file, and points a link to it. None of this
touches a data set, and the names it adds are not those of modules.

* `Tidy`: files without links where modules and data sets are;
* `Spares`: the data sets stay as they are;
* `standing_openSession`: once a session is set up, records go to its file, and to no module or data set.
-/

namespace ViewModel.Command

open Files

/-- Directories have their own entries, no link has the name of a module or of a data set, and the names of
files are plain. -/
structure Tidy (files : FileSystem) : Prop where
  distinct : files.Distinct
  here : files.lookup? files.here = some .directory
  direct : DataSet.Direct files
  plain : ∀ above name content, files.lookup? (above ++ [name]) = some (.file content) → '/' ∉ name.toList

/-- The data sets are those that there were. -/
def Spares (files later : FileSystem) : Prop :=
  ∀ place content, EndsIn DataSet.suffix place →
    (later.lookup? place = some (.file content) ↔ files.lookup? place = some (.file content))

variable {files later last : FileSystem} {place : Location} {workplace : Log.Workplace}

theorem Spares.refl (files : FileSystem) : Spares files files := fun _ _ _ => Iff.rfl

theorem Spares.trans (first : Spares files later) (second : Spares later last) : Spares files last :=
  fun place content ends => (second place content ends).trans (first place content ends)

/-- What has another name can change. -/
theorem spares_of_eq (h : ∀ place, EndsIn DataSet.suffix place → later.lookup? place = files.lookup? place) :
    Spares files later := by
  intro place content ends
  rw [h place ends]

theorem spares_of_adds (adds : FileSystem.Adds files later) : Spares files later := by
  intro place content _
  constructor
  · intro held
    rw [adds.lookup?_of_solid (by rw [held]; simp), held]
  · exact adds.lookup?

namespace Tidy

theorem of_adds (tidy : Tidy files) (adds : FileSystem.Adds files later) : Tidy later := by
  refine ⟨adds.distinct tidy.distinct, ?_, ?_, ?_⟩
  · rw [adds.here]
    exact adds.lookup? tidy.here
  · exact fun place target link => tidy.direct place target ((adds.keeps.link place target).1 link)
  · intro above name content held
    refine tidy.plain above name content ?_
    rw [adds.lookup?_of_solid (by rw [held]; simp), held]

/-- A file or a link with a name of its own takes the place of nothing but a file. -/
theorem put (tidy : Tidy files) (solid : files.lookup? place ≠ some .directory) {entry : Entry}
    (file : ∀ content, entry = .file content → ∀ above name, place = above ++ [name] → '/' ∉ name.toList)
    (link : ∀ target, entry = .link target →
      ¬ EndsIn TypesModule.moduleSuffix place ∧ ¬ EndsIn DataSet.suffix place) :
    Tidy (files.put place entry) := by
  have inside := FileSystem.ne_nil_of_lookup? solid
  have held (other : Location) := FileSystem.lookup?_put files entry other inside
  refine ⟨FileSystem.distinct_put tidy.distinct _ _, ?_, ?_, ?_⟩
  · have apart : files.here ≠ place := fun same => solid (same ▸ tidy.here)
    exact (held files.here).trans ((if_neg apart).trans tidy.here)
  · intro other target found
    rw [held] at found
    by_cases same : other = place
    · rw [if_pos same] at found
      exact same ▸ link target (Option.some.inj found)
    · rw [if_neg same] at found
      exact tidy.direct other target found
  · intro above name content found
    rw [held] at found
    by_cases same : above ++ [name] = place
    · rw [if_pos same] at found
      exact file content (Option.some.inj found) above name same.symm
    · rw [if_neg same] at found
      exact tidy.plain above name content found

theorem erase (tidy : Tidy files) (solid : files.lookup? place ≠ some .directory) : Tidy (files.erase place) := by
  have inside := FileSystem.ne_nil_of_lookup? solid
  have held (other : Location) := FileSystem.lookup?_erase files other inside
  have kept {other : Location} {entry : Entry} (found : (files.erase place).lookup? other = some entry) :
      files.lookup? other = some entry := by
    rw [held] at found
    split at found
    · cases found
    · exact found
  refine ⟨?_, ?_, fun other target found => tidy.direct other target (kept found),
    fun above name content found => tidy.plain above name content (kept found)⟩
  · exact tidy.distinct.sublist (List.filter_sublist.map _)
  · have apart : files.here ≠ place := fun same => solid (same ▸ tidy.here)
    exact (held files.here).trans ((if_neg apart).trans tidy.here)

/-- Records that go to free places leave the files tidy. -/
theorem of_overlaid {free : List Location} (tidy : Tidy files)
    (overlaid : FileSystem.Overlaid free files [] later) : Tidy later := by
  refine ⟨overlaid.distinct, ?_, ?_, ?_⟩
  · rw [overlaid.here]
    exact overlaid.keeps.directory _ tidy.here
  · exact fun place target link => tidy.direct place target ((overlaid.keeps.link place target).1 link)
  · intro above name content held
    obtain ⟨content, held⟩ := (overlaid.file_iff List.not_mem_nil).1 ⟨content, held⟩
    exact tidy.plain above name content held

end Tidy

/-- Where modules were written the data sets are as they were. -/
theorem spares_of_written {free : List Location} {writes : List (Location × List UInt8)}
    (loose : ∀ place ∈ free, ¬ EndsIn TypesModule.moduleSuffix place ∧ ¬ EndsIn DataSet.suffix place)
    (written : DataSet.Written free files writes later) : Spares files later := by
  refine spares_of_eq fun place ends => ?_
  refine written.lookup?_of_not_mem (fun mem => (loose place mem).2 ends) fun mem => ?_
  obtain ⟨write, wrote, rfl⟩ := List.mem_map.1 mem
  exact DataSet.not_endsIn_both (written.modules write wrote) ends

/-! ## The files of a session -/

def logSuffix : String := ".log"

/-- A session file is no module and no data set. -/
theorem loose_of_log (ends : EndsIn logSuffix place) :
    ¬ EndsIn TypesModule.moduleSuffix place ∧ ¬ EndsIn DataSet.suffix place := by
  constructor <;> intro other
  · exact absurd (last_eq_of_endsIn ends other (c := 'g') (d := 's') (by decide) (by decide)) (by decide)
  · exact absurd (last_eq_of_endsIn ends other (c := 'g') (d := 'l') (by decide) (by decide)) (by decide)

/-- A session with a file of its own: its name is plain, and no link has it. -/
structure Fresh (start : Log.Start) (files : FileSystem) : Prop where
  plain : '/' ∉ (Log.fileName start).toList
  unlinked : ∀ above target, files.lookup? (above ++ [Log.fileName start]) ≠ some (.link target)

/-- No session file has the name that leads to the latest. -/
theorem fileName_ne (start : Log.Start) :
    Log.fileName start ≠ Log.latestName ∧ Log.fileName start ≠ "." ∧ Log.fileName start ≠ ".." := by
  refine ⟨?_, ?_, ?_⟩ <;> intro same <;> have chars := congrArg String.toList same <;>
    simp [Log.fileName, Log.latestName, String.toList_append] at chars

theorem endsIn_fileName (start : Log.Start) (above : Location) :
    EndsIn logSuffix (above ++ [Log.fileName start]) := by
  refine endsIn_concat.2 ?_
  rw [Log.fileName, String.toList_append]
  exact List.suffix_append _ _

theorem getLast?_child (path : Path) (name : String) : (path.child name).parts.getLast? = some name :=
  List.getLast?_concat

/-- The link to the latest session is changed, and nothing else. -/
inductive Relinked (files : FileSystem) : FileSystem → Prop
  | same : Relinked files files
  | erase {later : FileSystem} (above : Location) (h : Relinked files later)
      (solid : later.lookup? (above ++ [Log.latestName]) ≠ some .directory) :
      Relinked files (later.erase (above ++ [Log.latestName]))
  | put {later : FileSystem} (above : Location) (h : Relinked files later)
      (free : later.lookup? (above ++ [Log.latestName]) = none) (target : String) :
      Relinked files (later.put (above ++ [Log.latestName]) (.link target))

theorem relinked_pointLatest (files : FileSystem) (directory : Path) (target : String) :
    Relinked files (Log.pointLatest files directory target) := by
  have ends := getLast?_child directory Log.latestName
  have named : Log.latestName ≠ "." ∧ Log.latestName ≠ ".." := by decide
  have remake {cleared made : FileSystem} (h : Relinked files cleared)
      (created : cleared.create (directory.child Log.latestName) (.link target) = .ok made) :
      Relinked files made := by
    obtain ⟨place, located, free, rfl⟩ := FileSystem.create_eq_ok created
    obtain ⟨above, rfl⟩ := FileSystem.place_of_locateLink ends named located
    exact .put above h free target
  unfold Log.pointLatest
  dsimp only
  cases removed : files.remove (directory.child Log.latestName) with
  | ok cleared =>
    obtain ⟨place, located, solid, rfl⟩ := FileSystem.remove_eq_ok removed
    obtain ⟨above, rfl⟩ := FileSystem.place_of_locateLink ends named located
    have erased := Relinked.same.erase above solid
    dsimp only
    split
    · exact remake erased ‹_›
    · exact erased
  | error error =>
    dsimp only
    split
    · split
      · exact remake .same ‹_›
      · exact .same
    · exact .same

namespace Relinked

theorem obstacles (h : Relinked files later) : later.obstacles = files.obstacles := by
  induction h with
  | same => rfl
  | erase above h solid ih => exact ih
  | put above h free target ih => exact ih

theorem lookup? (h : Relinked files later) {above : Location} {name : String} (other : name ≠ Log.latestName) :
    later.lookup? (above ++ [name]) = files.lookup? (above ++ [name]) := by
  have apart (above' : Location) : above ++ [name] ≠ above' ++ [Log.latestName] := by
    intro same
    exact other (List.singleton_inj.1 (List.append_inj' same rfl).2)
  induction h with
  | same => rfl
  | erase above' h solid ih =>
    rw [FileSystem.lookup?_erase _ _ (by simp), if_neg (apart above'), ih]
  | put above' h free target ih =>
    rw [FileSystem.lookup?_put _ _ _ (by simp), if_neg (apart above'), ih]

theorem spares (h : Relinked files later) : Spares files later := by
  refine spares_of_eq fun place ends => ?_
  obtain ⟨above, name, rfl, ends⟩ := ends
  refine h.lookup? ?_
  rintro rfl
  exact absurd ends (by decide)

theorem tidy (h : Relinked files later) (tidy : Tidy files) : Tidy later := by
  induction h with
  | same => exact tidy
  | erase above h solid ih => exact ih.erase solid
  | put above h free target ih =>
    refine ih.put (by rw [free]; simp) (by simp) fun _ _ => ?_
    exact loose_of_log (endsIn_concat.2 (by decide))

end Relinked

theorem openFile_of_located {path : Path} (located : files.locate (path.absolute files.here) = .ok place)
    (solid : files.lookup? place ≠ some .directory) :
    Log.openFile files path =
      if files.permitsWriting place then
        .ok (place, if (files.lookup? place).isSome then files else files.put place (.file []))
      else .error ⟨.denied, path.absolute files.here⟩ := by
  simp only [Log.openFile, located]

theorem openFile_eq_ok_iff {path : Path} {opened : FileSystem} :
    Log.openFile files path = .ok (place, opened) ↔
      files.locate (path.absolute files.here) = .ok place ∧ files.lookup? place ≠ some .directory ∧
        files.permitsWriting place = true ∧
        opened = if (files.lookup? place).isSome then files else files.put place (.file []) := by
  constructor
  · intro h
    cases located : files.locate (path.absolute files.here) with
    | error cause => simp [Log.openFile, located] at h
    | ok reached =>
      by_cases solid : files.lookup? reached = some .directory
      · simp [Log.openFile, located, solid] at h
      · rw [openFile_of_located located solid] at h
        split at h
        · cases h
          exact ⟨rfl, solid, ‹_›, rfl⟩
        · cases h
  · rintro ⟨located, solid, permitted, rfl⟩
    rw [openFile_of_located located solid, if_pos permitted]

/-- The session file is opened under its own name, and its place is a file from then on. -/
theorem openFile_eq_ok {start : Log.Start} (tidy : Tidy files) (fresh : Fresh start files) {directory : Path}
    {opened : FileSystem} (h : Log.openFile files (directory.child (Log.fileName start)) = .ok (place, opened)) :
    (∃ above, place = above ++ [Log.fileName start]) ∧
      (∃ content, opened.lookup? place = some (.file content)) ∧ Tidy opened ∧ Spares files opened := by
  obtain ⟨located, solid, -, rfl⟩ := openFile_eq_ok_iff.1 h
  have named := (fileName_ne start).2
  obtain ⟨above, rfl⟩ := FileSystem.place_of_locate
    (Path.getLast?_absolute (getLast?_child directory (Log.fileName start)) named.2 files.here) named
    fresh.unlinked located
  cases held : files.lookup? (above ++ [Log.fileName start]) with
  | some entry =>
    cases entry with
    | directory => exact absurd held solid
    | link target => exact absurd held (fresh.unlinked above target)
    | file content => exact ⟨⟨above, rfl⟩, ⟨content, held⟩, tidy, Spares.refl files⟩
  | none =>
    refine ⟨⟨above, rfl⟩, ⟨[], ?_⟩, ?_, ?_⟩
    · exact (FileSystem.lookup?_put _ _ _ (by simp)).trans (if_pos rfl)
    · refine tidy.put solid ?_ (by simp)
      intro content _ above' name same
      rw [← List.singleton_inj.1 (List.append_inj' same rfl).2]
      exact fresh.plain
    · refine spares_of_eq fun place ends => (FileSystem.lookup?_put _ _ _ (by simp)).trans (if_neg ?_)
      rintro rfl
      exact (loose_of_log (endsIn_fileName start above)).2 ends

/-! ## Setting up a session -/

/-- The state of logging in a session with a file. -/
def inSession (start : Log.Start) (path : Path) (place : Location) (threshold : Nat) (onTerminal : Bool) :
    Log.Logging :=
  { handlers := (.file place :: if onTerminal then [.terminal] else []).map (⟨·, threshold⟩)
    filters := [start.id]
    threshold
    propagates := false
    file := some path
    session := some start }

section

variable {start : Log.Start} {environment : Table String} {level : Option String} {directory path : Path}
  {onTerminal : Bool} {made opened : FileSystem} {threshold : Nat}

def sessionRecords (start : Log.Start) (environment : Table String) (level : Option String) (path : Path) :
    List Record :=
  [⟨.info, packageLogger,
      "noesisgen session " ++ start.id ++ " started (level " ++ Log.levelWord environment level ++ ")"⟩,
    ⟨.info, packageLogger, "  Log file: " ++ path.text⟩]

theorem ran_changeFiles (change : FileSystem → Except Files.Error α × FileSystem) (workplace : Log.Workplace) :
    ran (Log.changeFiles change) workplace =
      ((change workplace.files).1.mapError .files, { workplace with files := (change workplace.files).2 }) := rfl

theorem ran_changeFiles_ok {change : FileSystem → Except Files.Error α × FileSystem} {value : α}
    {changed : FileSystem} (h : change workplace.files = (.ok value, changed)) :
    ran (Log.changeFiles change) workplace = (.ok value, { workplace with files := changed }) := by
  rw [ran_changeFiles, h]
  rfl

theorem ran_threshold {word : String} (known : Log.threshold word = .ok threshold) (workplace : Log.Workplace) :
    ran (liftM (Log.threshold word) : Log.WorkAction Log.SetupError Nat) workplace =
      (.ok threshold, workplace) := by
  rw [known]
  rfl

theorem ran_setup (ensured : workplace.files.makeDirectories directory = (.ok (), made))
    (known : Log.threshold (Log.levelWord environment level) = .ok threshold)
    (accessible : Log.openFile made (directory.child (Log.fileName start)) = .ok (place, opened)) :
    ran (Log.setup start environment level (some directory) onTerminal) workplace =
      (.ok (directory.child (Log.fileName start)),
        ({ workplace with
            files := Log.pointLatest opened directory (directory.child (Log.fileName start)).name
            logging := inSession start (directory.child (Log.fileName start)) place threshold onTerminal
          } : Log.Workplace).logAll
          (sessionRecords start environment level (directory.child (Log.fileName start)))) := by
  unfold Log.setup
  refine (ran_bind_ok rfl _).trans ((ran_bind_ok rfl _).trans ?_)
  refine (ran_bind_ok (ran_changeFiles_ok ensured) _).trans ((ran_bind_ok rfl _).trans ?_)
  refine (ran_bind_ok (ran_threshold known _) _).trans ((ran_bind_ok rfl _).trans ?_)
  refine (ran_bind_ok (ran_changeFiles_ok (?_ : _ = (Except.ok place, opened))) _).trans rfl
  dsimp only
  rw [accessible]

theorem changeFiles_eq_ok {change : FileSystem → Except Files.Error α × FileSystem} {value : α}
    {after : Log.Workplace} (h : ran (Log.changeFiles change) workplace = (.ok value, after)) :
    ∃ changed, change workplace.files = (.ok value, changed) ∧ after = { workplace with files := changed } := by
  rw [ran_changeFiles] at h
  rcases changes : change workplace.files with ⟨_ | found, changed⟩ <;> rw [changes] at h <;> cases h
  exact ⟨changed, rfl, rfl⟩

/-- A session that is set up has its directory and its file. -/
theorem setup_eq_ok {after : Log.Workplace}
    (h : ran (Log.setup start environment level (some directory) onTerminal) workplace = (.ok path, after)) :
    ∃ made place opened threshold, workplace.files.makeDirectories directory = (.ok (), made) ∧
      Log.openFile made (directory.child (Log.fileName start)) = .ok (place, opened) ∧
      after = ({ workplace with
          files := Log.pointLatest opened directory (directory.child (Log.fileName start)).name
          logging := inSession start (directory.child (Log.fileName start)) place threshold onTerminal
        } : Log.Workplace).logAll
        (sessionRecords start environment level (directory.child (Log.fileName start))) := by
  have whole := h
  unfold Log.setup at h
  obtain ⟨_, _, closed, h⟩ := ran_bind_eq_ok h
  cases closed
  obtain ⟨_, _, given, h⟩ := ran_bind_eq_ok h
  cases given
  obtain ⟨_, _, ensures, h⟩ := ran_bind_eq_ok h
  obtain ⟨made, ensured, rfl⟩ := changeFiles_eq_ok ensures
  obtain ⟨_, _, named, h⟩ := ran_bind_eq_ok h
  cases named
  obtain ⟨threshold, _, knows, h⟩ := ran_bind_eq_ok h
  cases known : Log.threshold (Log.levelWord environment level) with
  | error error => rw [known] at knows; cases knows
  | ok threshold =>
    rw [ran_threshold known] at knows
    cases knows
    obtain ⟨_, _, filtered, h⟩ := ran_bind_eq_ok h
    cases filtered
    obtain ⟨_, _, opens, -⟩ := ran_bind_eq_ok h
    obtain ⟨_, accesses, -⟩ := changeFiles_eq_ok opens
    cases accessible : Log.openFile made (directory.child (Log.fileName start)) with
    | error error => rw [accessible] at accesses; cases accesses
    | ok opened =>
      have ended : ran (Log.setup start environment level (some directory) onTerminal) workplace = _ :=
        ran_setup ensured known accessible
      rw [ended] at whole
      cases whole
      exact ⟨made, opened.1, opened.2, threshold, ensured, accessible, rfl⟩

end

/-- Once a session is set up, records go to its file, which is no module and no data set. -/
theorem standing_openSession {surroundings : Surroundings} {settings : Settings} {directory : Option String}
    {onTerminal : Bool} {path : Path} {after : Log.Workplace} (tidy : Tidy workplace.files)
    (fresh : Fresh surroundings.start workplace.files)
    (h : ran (openSession surroundings settings directory onTerminal) workplace = (.ok path, after)) :
    ∃ base place, Tidy base ∧ Spares workplace.files base ∧ EndsIn logSuffix place ∧
      Standing [place] base [] after := by
  unfold openSession at h
  generalize (directory.map Path.ofText).getD settings.logDirectory = directory at h
  obtain ⟨made, place, opened, threshold, ensured, accessible, rfl⟩ := setup_eq_ok (ran_adapt_eq_ok h)
  have adds := DataSet.adds_of_made ensured
  have fresh' : Fresh surroundings.start made :=
    ⟨fresh.plain, fun above target link => fresh.unlinked above target ((adds.keeps.link _ _).1 link)⟩
  obtain ⟨⟨above, rfl⟩, ⟨content, held⟩, tidy', spares⟩ := openFile_eq_ok (tidy.of_adds adds) fresh' accessible
  have relinked := relinked_pointLatest opened directory (directory.child (Log.fileName surroundings.start)).name
  refine ⟨_, _, relinked.tidy tidy', ((spares_of_adds adds).trans spares).trans relinked.spares,
    endsIn_fileName surroundings.start above, Standing.logAll ⟨⟨?_, ?_⟩, ?_⟩ _⟩
  · refine FileSystem.Overlaid.refl (relinked.tidy tidy').distinct (List.forall_mem_singleton.2 ⟨content, ?_⟩)
    rw [relinked.lookup? (fileName_ne surroundings.start).1, held]
  · exact fun write mem => absurd mem List.not_mem_nil
  · intro handler mem place sink
    obtain ⟨target, within, rfl⟩ := List.mem_map.1 mem
    dsimp only at sink
    subst sink
    rcases List.mem_cons.1 within with same | within
    · exact Log.Sink.file.inj same ▸ List.mem_cons_self
    · split at within <;> simp at within

end ViewModel.Command
