import ViewModel.Proofs.Command.Session

/-!
# The modules of a run

A run of a job writes the types module and then a module for every data set, all of them by names of their
own choice. The modules of data sets never meet each other, since data sets have names of their own. The types
module keeps its text exactly if no data set has a module where it is.

* `Job.reported`: what a job reports of its data sets;
* `Job.Generated`: what is left of a job: the modules that were reported, and the data sets as they were;
* `value_writeFile`, `Prepared.writeTypes`: the types module is written where its path leads;
* `Standing.convertSets`: the modules of the data sets are written over what stands;
* `Job.Leaves.generated`: what is left of a job once its modules are written.
-/

namespace ViewModel

open Files Schema

/-! ## Texts of modules -/

theorem Text.Utf8.eq_of_encode {text other : String} (h : encode text = encode other) : text = other := by
  unfold encode at h
  exact String.toByteArray_inj.1 (ByteArray.ext (Array.toList_inj.1 h))

/-- How the module of a data set starts. -/
theorem DataSet.exists_of_readModule {registry : Registry} {options : Literal.DataModule} {path : Path}
    {files : FileSystem} {text : String} (h : (readModule registry options path files).outcome = .ok text) :
    ∃ rest, text = "// Auto-generated data context from Noesis data set: " ++ rest := by
  unfold readModule at h
  obtain ⟨⟨rootTag, tree⟩, -, h⟩ := Attempt.outcome_bind_eq_ok h
  dsimp only at h
  rw [Attempt.outcome_adapt] at h
  cases rendered : (options.render registry path.name rootTag tree).outcome with
  | error error => rw [rendered] at h; cases h
  | ok found =>
    rw [rendered] at h
    cases h
    unfold Literal.DataModule.render at rendered
    obtain ⟨root, -, rendered⟩ := Attempt.outcome_bind_eq_ok rendered
    obtain ⟨literal, -, rendered⟩ := Attempt.outcome_bind_eq_ok rendered
    cases rendered
    simp only [String.append_assoc]
    exact ⟨_, rfl⟩

namespace TypesModule

/-- How the types module starts. -/
theorem exists_of_render (registry : Registry) (options : Options) : ∃ rest, (render registry options).value =
    "// Auto-generated TypeScript definitions for Noesis structures" ++ rest := by
  unfold render
  rw [Logged.bind_value, Logged.pure_value, preamble, List.cons_append, List.cons_append,
    String.intercalate_cons_cons]
  simp only [String.append_assoc]
  exact ⟨_, rfl⟩

/-- No data set has the types module for its module. -/
theorem ne_of_readModule {registry : Registry} {options : Literal.DataModule} {path : Path} {files : FileSystem}
    {text : String} (h : (DataSet.readModule registry options path files).outcome = .ok text)
    (typesOptions : Options) : text ≠ (render registry typesOptions).value := by
  intro same
  obtain ⟨rest, starts⟩ := DataSet.exists_of_readModule h
  obtain ⟨rest', starts'⟩ := exists_of_render registry typesOptions
  rw [starts, starts'] at same
  have chars := congrArg (fun text => text.toList.take 19) same
  simp at chars

/-- What writing the types module comes to, without its records. -/
theorem value_writeFile (registry : Registry) (directory : Path) (moduleName : String) (options : Options)
    (files : FileSystem) :
    ((writeFile registry directory moduleName options).runOn files).value =
      match files.makeDirectories directory with
      | (.error error, made) => (.error error, made)
      | (.ok (), made) =>
        match made.write (directory.join (moduleName ++ moduleSuffix))
            (Text.Utf8.encode (render registry options).value) with
        | .error error => (.error error, made)
        | .ok written => (.ok (directory.join (moduleName ++ moduleSuffix)), written) := by
  have makes := FileAction.value_runOn_changing (fun files => files.makeDirectories directory) files
  unfold writeFile
  rcases ensured : files.makeDirectories directory with ⟨_ | _, made⟩
  · rw [ensured] at makes
    exact FileAction.value_runOn_bind_error makes _
  · rw [ensured] at makes
    rw [FileAction.makeDirectories, FileAction.value_runOn_bind_ok makes]
    dsimp only
    rw [FileAction.value_runOn_bind_ok (FileAction.value_runOn_record _ _ _ made),
      FileAction.value_runOn_bind_ok (FileAction.value_runOn_ofAttempt _ made)]
    have wrote : ((FileAction.writeText (directory.join (moduleName ++ moduleSuffix))
        (render registry options).value).runOn made).value = _ := FileAction.value_runOn_changing _ made
    cases written : made.write (directory.join (moduleName ++ moduleSuffix))
        (Text.Utf8.encode (render registry options).value) with
    | error error =>
      rw [written] at wrote
      exact FileAction.value_runOn_bind_error wrote _
    | ok written' =>
      rw [written] at wrote
      exact FileAction.value_runOn_bind_ok wrote _

end TypesModule

end ViewModel

namespace ViewModel.Command

open Files

variable {workplace after : Log.Workplace} {free : List Location} {made : FileSystem}
  {writes : List (Location × List UInt8)}

/-! ## Before a job -/

/-- A workplace where a job can start: its files are tidy, and records go to session files only. -/
structure Prepared (free : List Location) (workplace : Log.Workplace) : Prop where
  tidy : Tidy workplace.files
  logs : ∀ place ∈ free, EndsIn logSuffix place ∧ ∃ content, workplace.files.lookup? place = some (.file content)
  sinks : ∀ handler ∈ workplace.logging.handlers, ∀ place, handler.sink = .file place → place ∈ free

theorem Prepared.loose (prepared : Prepared free workplace) :
    ∀ place ∈ free, ¬ EndsIn TypesModule.moduleSuffix place ∧ ¬ EndsIn DataSet.suffix place :=
  fun place mem => loose_of_log (prepared.logs place mem).1

/-- The settings of a run are read without a trace. -/
theorem ran_readSettings (surroundings : Surroundings) (workplace : Log.Workplace) :
    (ran (readSettings surroundings) workplace).2 = workplace := by
  unfold readSettings
  refine (congrArg Prod.snd (ran_bind_ok rfl _)).trans ?_
  rw [ran_bind, ran_orFault]
  cases readAssignments workplace.files <;> rfl

theorem outputDirectory_of_prepare {surroundings : Surroundings} {given : Given} {job : Job}
    (h : ran (prepare surroundings given) workplace = (.ok job, after)) :
    job.outputDirectory = Path.ofText (given.words.getD 1 "") := by
  unfold prepare at h
  obtain ⟨settings, _, -, h⟩ := ran_bind_eq_ok h
  obtain ⟨_, _, -, h⟩ := ran_bind_eq_ok h
  obtain ⟨_, _, -, h⟩ := ran_bind_eq_ok h
  have last {between : Log.Workplace} (h : ran (do
      tellAll (heading "01" "STRUCTURES")
      let registry ← loadProject settings (Path.ofText (given.words.getD 0 ""))
      print surroundings.cells (done ("Loaded " ++ toString registry.size ++ " structures"))
      return (⟨settings, Path.ofText (given.words.getD 0 ""), Path.ofText (given.words.getD 1 ""),
        given.words[2]?, given.has "--types-only" || settings.typesOnly,
        (((given.value? "--indent-level").bind integerOf?).map Int.toNat).getD settings.indent, registry⟩ : Job))
      between = (.ok job, after)) : job.outputDirectory = Path.ofText (given.words.getD 1 "") := by
    obtain ⟨_, _, -, h⟩ := ran_bind_eq_ok h
    obtain ⟨_, _, -, h⟩ := ran_bind_eq_ok h
    obtain ⟨_, _, -, h⟩ := ran_bind_eq_ok h
    cases h
    rfl
  split at h
  · obtain ⟨_, _, -, h⟩ := ran_bind_eq_ok h
    exact last h
  · exact last h

/-- What is done before a job leaves the data sets as they are, and records go to the session's file. -/
theorem prepared_of_ran {surroundings : Surroundings} {given : Given} {job : Job} (tidy : Tidy workplace.files)
    (fresh : Fresh surroundings.start workplace.files)
    (h : ran (prepare surroundings given) workplace = (.ok job, after)) :
    Spares workplace.files after.files ∧ ∃ place, Prepared [place] after := by
  unfold prepare at h
  obtain ⟨settings, between, reads, h⟩ := ran_bind_eq_ok h
  have same := ran_readSettings surroundings workplace
  rw [reads] at same
  dsimp only at same
  rw [same] at h
  obtain ⟨path, opened, opens, h⟩ := ran_bind_eq_ok h
  obtain ⟨base, place, tidy', spares, ends, standing⟩ := standing_openSession tidy fresh opens
  -- What follows only logs and shows something.
  have loads : Quiet (loadProject settings (Path.ofText (given.words.getD 0 ""))) := by
    refine (quiet_reading _).bind fun loaded => ?_
    split
    · exact quiet_pure _
    · exact quiet_fail _
    · exact quiet_fail _
    · exact quiet_orFault _ _
  have standing' : Standing [place] base [] after := by
    refine Quiet.of_ok ((quiet_tellAll _).bind fun _ => ?_) standing h
    split
    · refine (quiet_print _ _).bind fun _ => (quiet_tellAll _).bind fun _ => loads.bind fun _ => ?_
      exact (quiet_print _ _).bind fun _ => quiet_pure _
    · refine (quiet_tellAll _).bind fun _ => loads.bind fun _ => ?_
      exact (quiet_print _ _).bind fun _ => quiet_pure _
  have loose : ∀ other ∈ [place], ¬ EndsIn TypesModule.moduleSuffix other ∧ ¬ EndsIn DataSet.suffix other :=
    List.forall_mem_singleton.2 (loose_of_log ends)
  refine ⟨spares.trans (spares_of_written loose standing'.written), place, ?_, ?_, standing'.sinks⟩
  · exact tidy'.of_overlaid standing'.written.toOverlaid
  · exact List.forall_mem_singleton.2 ⟨ends, (standing'.written.loose place List.mem_cons_self).2⟩

namespace Job

variable (job : Job) (cells : Nat)

def typesPath : Path := job.outputDirectory.join (job.settings.typesModule ++ TypesModule.moduleSuffix)

def typesText : String := (TypesModule.render job.registry job.typesOptions).value

/-- Where a job looks for a data set. -/
def Seeks (path : Path) : Prop :=
  match job.setName.filter (· != "") with
  | some name => path = (job.settings.setsPath job.project).join (name ++ DataSet.suffix)
  | none => path = (job.settings.setsPath job.project).child path.name

def reported (ready : Log.Workplace) : List DataSet.Outcome :=
  (ran (do let _ ← job.writeTypes cells; job.convertSets cells) ready).1.toOption.getD []

end Job

/-- A directory that a job makes is a place for modules. -/
theorem Prepared.site (prepared : Prepared free workplace) {directory : Path} (proper : directory.Proper)
    (ensured : workplace.files.makeDirectories directory = (.ok (), made)) : DataSet.Site free made directory :=
  DataSet.site_of_made proper prepared.tidy.distinct prepared.tidy.here prepared.tidy.direct prepared.loose ensured

/-- The last step of the types module's path has the ending of a module. -/
theorem Job.last_typesPath (job : Job) : ∃ last, job.typesPath.parts.getLast? = some last ∧
    TypesModule.moduleSuffix.toList <:+ last.toList := by
  obtain ⟨last, ends, suffixed, -⟩ := Path.getLast?_join job.outputDirectory job.settings.typesModule
    (by decide : '/' ∉ TypesModule.moduleSuffix.toList) fun last => by
      cases last <;> simp [Path.isStep, TypesModule.moduleSuffix]
  exact ⟨last, ends, suffixed⟩

theorem Job.endsIn_typesPath {job : Job} (direct : DataSet.Direct made) {place : Location}
    (located : made.locate job.typesPath = .ok place) : EndsIn TypesModule.moduleSuffix place := by
  obtain ⟨last, ends, suffixed⟩ := job.last_typesPath
  have named : last ≠ "." ∧ last ≠ ".." := by
    constructor <;> rintro rfl <;> exact absurd suffixed (by decide)
  obtain ⟨above, rfl⟩ := FileSystem.place_of_locate ends named
    (fun above target link => (direct _ target link).1 (endsIn_concat.2 suffixed)) located
  exact endsIn_concat.2 suffixed

theorem Job.value_writeFile (job : Job) (files : FileSystem) :
    ((TypesModule.writeFile job.registry job.outputDirectory job.settings.typesModule job.typesOptions).run.run
        files).value =
      match files.makeDirectories job.outputDirectory with
      | (.error error, made) => (.error error, made)
      | (.ok (), made) =>
        match made.write job.typesPath (Text.Utf8.encode job.typesText) with
        | .error error => (.error error, made)
        | .ok written => (.ok job.typesPath, written) := by
  unfold Job.typesPath Job.typesText
  rw [← TypesModule.value_writeFile, FileAction.runOn]

/-- The types module is written where its path leads, and nothing else is. -/
theorem Prepared.writeTypes (prepared : Prepared free workplace) {job : Job} (proper : job.outputDirectory.Proper)
    {cells : Nat} {path : Path} (h : ran (job.writeTypes cells) workplace = (.ok path, after)) :
    ∃ made place, workplace.files.makeDirectories job.outputDirectory = (.ok (), made) ∧
      made.locate job.typesPath = .ok place ∧
      Standing free made [(place, Text.Utf8.encode job.typesText)] after := by
  unfold Job.writeTypes at h
  obtain ⟨result, between, writes, h⟩ := ran_bind_eq_ok h
  obtain ⟨path, later, succeeds, h⟩ := ran_bind_eq_ok h
  rw [ran_orFault] at succeeds
  rw [ran_acting, job.value_writeFile] at writes
  rcases ensured : workplace.files.makeDirectories job.outputDirectory with ⟨_ | _, made⟩
  · rw [ensured] at writes
    cases writes
    cases succeeds
  · rw [ensured] at writes
    dsimp only at writes
    cases written : made.write job.typesPath (Text.Utf8.encode job.typesText) with
    | error error =>
      rw [written] at writes
      cases writes
      cases succeeds
    | ok wrote =>
      rw [written] at writes
      cases writes
      cases succeeds
      obtain ⟨place, located, solid, permitted, rfl⟩ := FileSystem.write_eq_ok written
      have site := prepared.site proper ensured
      have ends := Job.endsIn_typesPath site.direct located
      have adds := DataSet.adds_of_made ensured
      have held : ∀ place ∈ free, ∃ content, made.lookup? place = some (.file content) := by
        intro place mem
        obtain ⟨content, held⟩ := (prepared.logs place mem).2
        exact ⟨content, adds.lookup? held⟩
      have overlaid := (FileSystem.Overlaid.refl site.distinct held).put (fun mem => (prepared.loose place mem).1 ends)
        solid (fun target link => (site.direct place target link).1 ends) permitted (Text.Utf8.encode job.typesText)
      have standing : Standing free made [(place, Text.Utf8.encode job.typesText)]
          { workplace with files := made.put place (.file (Text.Utf8.encode job.typesText)) } :=
        ⟨⟨overlaid, List.forall_mem_singleton.2 ends⟩, prepared.sinks⟩
      have quiet : Quiet (do print cells (done ("Wrote " ++ job.typesPath.text)); return job.typesPath) :=
        (quiet_print _ _).bind fun _ => quiet_pure _
      exact ⟨made, place, rfl, located, quiet.of_ok (standing.logAll _) h⟩

/-- The types module can be written where its path leads to no directory, and writing is permitted. -/
theorem Job.ran_writeTypes_ok (job : Job) {place : Location}
    (ensured : workplace.files.makeDirectories job.outputDirectory = (.ok (), made))
    (located : made.locate job.typesPath = .ok place) (solid : made.lookup? place ≠ some .directory)
    (permitted : made.permitsWriting place = true)
    (plain : (Terminal.Markup.plain (done ("Wrote " ++ job.typesPath.text))).isOk = true) (cells : Nat) :
    ∃ later, ran (job.writeTypes cells) workplace = (.ok job.typesPath, later) := by
  have acts := ran_acting (TypesModule.writeFile job.registry job.outputDirectory job.settings.typesModule
    job.typesOptions).run workplace
  rw [job.value_writeFile, ensured] at acts
  dsimp only at acts
  rw [FileSystem.write_of_located located solid, if_pos permitted] at acts
  obtain ⟨shown, shows⟩ := ran_print_ok _ plain cells _
  exact ⟨_, (ran_bind_ok acts _).trans ((ran_bind_ok (ran_orFault _ _ _) _).trans
    ((ran_bind_ok shows _).trans rfl))⟩

/-! ## Data sets -/

/-- A file that is found under the name of a data set was there before modules were written. -/
theorem isDataSet_of_isFile {files : FileSystem} (tidy : Tidy made)
    (loose : ∀ place ∈ free, ¬ EndsIn TypesModule.moduleSuffix place ∧ ¬ EndsIn DataSet.suffix place)
    (written : DataSet.Written free made writes files) {path : Path} (found : files.isFile path = .ok true)
    (ends : DataSet.suffix.toList <:+ path.name.toList) : DataSet.IsDataSet made path := by
  obtain ⟨place, content, located, held⟩ := FileSystem.isFile_iff.1 found
  have located := written.locate_iff.1 located
  obtain ⟨above, rfl⟩ := FileSystem.place_of_locate (DataSet.getLast?_of_ends ends) (DataSet.named_of_ends ends)
    (fun above target link => (tidy.direct _ target link).2 (endsIn_concat.2 ends)) located
  have held := (spares_of_written loose written _ content (endsIn_concat.2 ends)).1 held
  exact ⟨FileSystem.isFile_iff.2 ⟨_, content, located, held⟩, ends, tidy.plain above path.name content held⟩

/-- A data set is found where modules were written. -/
theorem isFile_of_isDataSet {files : FileSystem} (direct : DataSet.Direct made)
    (loose : ∀ place ∈ free, ¬ EndsIn TypesModule.moduleSuffix place ∧ ¬ EndsIn DataSet.suffix place)
    (written : DataSet.Written free made writes files) {path : Path} (data : DataSet.IsDataSet made path) :
    files.isFile path = .ok true := by
  obtain ⟨place, content, located, held⟩ := FileSystem.isFile_iff.1 data.found
  refine FileSystem.isFile_iff.2 ⟨place, content, written.locate_iff.2 located, ?_⟩
  exact (spares_of_written loose written place content (data.endsIn direct located)).2 held

/-- The data sets that a job selects are those it looks for, and their modules have names of their own. -/
theorem Job.dataSets_of_select {job : Job} {files : FileSystem} (tidy : Tidy made)
    (loose : ∀ place ∈ free, ¬ EndsIn TypesModule.moduleSuffix place ∧ ¬ EndsIn DataSet.suffix place)
    (written : DataSet.Written free made writes files) {paths : List Path}
    (selected : DataSet.select files (job.settings.setsPath job.project) job.setName = .ok paths) :
    (∀ path ∈ paths, DataSet.IsDataSet made path ∧ job.Seeks path) ∧
      ∀ path ∈ paths, ∀ other ∈ paths, DataSet.moduleName path = DataSet.moduleName other → path = other := by
  unfold DataSet.select at selected
  unfold Job.Seeks
  cases named : job.setName.filter (· != "") with
  | some name =>
    rw [named] at selected
    dsimp only at selected ⊢
    cases found : files.isFile ((job.settings.setsPath job.project).join (name ++ DataSet.suffix)) with
    | error error => rw [found] at selected; cases selected
    | ok answer =>
      rw [found] at selected
      cases answer with
      | false => cases selected
      | true =>
        cases selected
        obtain ⟨last, ends, suffixed, -⟩ := Path.getLast?_join (job.settings.setsPath job.project) name
          (by decide : '/' ∉ DataSet.suffix.toList) fun last => by
            cases last <;> simp [Path.isStep, DataSet.suffix]
        have ends' : DataSet.suffix.toList <:+
            ((job.settings.setsPath job.project).join (name ++ DataSet.suffix)).name.toList := by
          rw [Path.name, ends]
          exact suffixed
        constructor
        · exact List.forall_mem_singleton.2 ⟨isDataSet_of_isFile tidy loose written found ends', rfl⟩
        · intro path mem other mem' _
          rw [List.mem_singleton.1 mem, List.mem_singleton.1 mem']
  | none =>
    rw [named] at selected
    dsimp only at selected ⊢
    cases listed : files.listFiles (job.settings.setsPath job.project) DataSet.suffix with
    | error error => rw [listed] at selected; cases selected
    | ok listed' =>
      rw [listed] at selected
      cases selected
      constructor
      · intro path mem
        obtain ⟨found, suffixed⟩ := FileSystem.isFile_of_mem listed mem
        have ends : DataSet.suffix.toList <:+ path.name.toList := suffixed ▸ Path.suffix_isSuffix path
        exact ⟨isDataSet_of_isFile tidy loose written found ends, FileSystem.eq_child_of_mem listed mem⟩
      · exact fun path mem other mem' => DataSet.eq_of_moduleName listed mem mem'

/-- A data set is selected by its name. -/
theorem select_of_isFile {files : FileSystem} {directory : Path} {name : String} (named : name ≠ "")
    (found : files.isFile (directory.join (name ++ DataSet.suffix)) = .ok true) :
    DataSet.select files directory (some name) = .ok [directory.join (name ++ DataSet.suffix)] := by
  rw [DataSet.select, Option.filter_some, if_pos (bne_iff_ne.2 named)]
  dsimp only
  rw [found]

/-- What comes of a data set, once there is a place for its module. -/
def Job.outcome (job : Job) (made : FileSystem) (path : Path) : DataSet.Outcome :=
  ⟨path.name, (DataSet.product job.registry (dataModuleOf job.settings job.indent) job.outputDirectory path
    made).map fun _ => DataSet.modulePath job.outputDirectory path⟩

def Job.products (job : Job) (made : FileSystem) (paths : List Path) : List (Location × List UInt8) :=
  DataSet.products job.registry (dataModuleOf job.settings job.indent) job.outputDirectory paths made

/-- A data set is converted, and what comes of it is told. -/
def Job.convertOne (job : Job) (cells : Nat) (path : Path) : Action DataSet.Outcome := do
  let outcome ← acting (DataSet.convertOne job.registry (dataModuleOf job.settings job.indent)
    job.outputDirectory path)
  print cells (if outcome.succeeded then done outcome.file else failed outcome.file)
  return outcome

theorem Job.yields_convertOne (job : Job) (cells : Nat) (path : Path) : Yields (job.convertOne cells path) :=
  (yields_acting _).bind fun _ => (yields_print _ _).bind fun _ => yields_pure _

/-- A conversion that is told comes to what it comes to in the base, and adds its module. -/
theorem Standing.convertOne (standing : Standing free made writes workplace) {job : Job}
    (site : DataSet.Site free made job.outputDirectory) {path : Path} (data : DataSet.IsDataSet made path)
    {cells : Nat} {outcome : DataSet.Outcome} (h : ran (job.convertOne cells path) workplace = (.ok outcome, after)) :
    outcome = job.outcome made path ∧ Standing free made (job.products made [path] ++ writes) after := by
  obtain ⟨later, value, written⟩ := standing.written.step job.registry (dataModuleOf job.settings job.indent)
    site data
  unfold Job.convertOne at h
  obtain ⟨result, between, acts, h⟩ := ran_bind_eq_ok h
  rw [ran_acting, DataSet.value_convertOne, FileAction.outcome, FileAction.files, value] at acts
  obtain ⟨same, rfl⟩ := Prod.mk.inj acts
  have same : job.outcome made path = result := Except.ok.inj same
  subst same
  have standing' : Standing free made (job.products made [path] ++ writes) { workplace with files := later } := by
    refine ⟨?_, standing.sinks⟩
    rw [Job.products, DataSet.products, List.flatMap_singleton]
    exact written
  have quiet : Quiet (do
      print cells (if (job.outcome made path).succeeded then done (job.outcome made path).file
        else failed (job.outcome made path).file)
      return job.outcome made path) := (quiet_print _ _).bind fun _ => quiet_pure _
  refine ⟨?_, quiet.of_ok (standing'.logAll _) h⟩
  obtain ⟨_, _, -, h⟩ := ran_bind_eq_ok h
  cases h
  rfl

/-- A data set that has a module is told by its name. -/
theorem Standing.ran_convertOne_ok (standing : Standing free made writes workplace) {job : Job}
    (site : DataSet.Site free made job.outputDirectory) {path : Path} (data : DataSet.IsDataSet made path)
    (succeeds : (job.outcome made path).succeeded = true)
    (plain : (Terminal.Markup.plain (done path.name)).isOk = true) (cells : Nat) :
    ∃ later, ran (job.convertOne cells path) workplace = (.ok (job.outcome made path), later) := by
  obtain ⟨after, value, -⟩ := standing.written.step job.registry (dataModuleOf job.settings job.indent) site data
  have acts := ran_acting (DataSet.convertOne job.registry (dataModuleOf job.settings job.indent)
    job.outputDirectory path) workplace
  rw [DataSet.value_convertOne, FileAction.outcome, FileAction.files, value] at acts
  have named : (job.outcome made path).file = path.name := rfl
  obtain ⟨shown, shows⟩ := ran_print_ok (if (job.outcome made path).succeeded then done (job.outcome made path).file
    else failed (job.outcome made path).file) (by rw [if_pos succeeds, named]; exact plain) cells _
  exact ⟨_, (ran_bind_ok acts _).trans ((ran_bind_ok shows _).trans rfl)⟩

/-- Conversions one after the other add the modules of their data sets. -/
theorem Standing.convertEach (standing : Standing free made writes workplace) {job : Job}
    (site : DataSet.Site free made job.outputDirectory) {paths : List Path}
    (data : ∀ path ∈ paths, DataSet.IsDataSet made path) {cells : Nat} {outcomes : List DataSet.Outcome}
    (h : ran (paths.mapM (job.convertOne cells)) workplace = (.ok outcomes, after)) :
    outcomes = paths.map (job.outcome made) ∧
      Standing free made (job.products made paths.reverse ++ writes) after := by
  induction paths generalizing workplace writes outcomes with
  | nil =>
    cases h
    exact ⟨rfl, standing⟩
  | cons path rest ih =>
    rw [List.mapM_cons] at h
    obtain ⟨outcome, between, first, h⟩ := ran_bind_eq_ok h
    obtain ⟨others, _, later, h⟩ := ran_bind_eq_ok h
    cases h
    obtain ⟨rfl, standing'⟩ := standing.convertOne site (data path List.mem_cons_self) first
    obtain ⟨rfl, standing''⟩ := ih standing' (fun path mem => data path (List.mem_cons_of_mem _ mem)) later
    refine ⟨rfl, ?_⟩
    rw [List.reverse_cons, Job.products, DataSet.products, List.flatMap_append, List.append_assoc]
    exact standing''

theorem yields_mapM {α β : Type} {step : α → Action β} (h : ∀ item, Yields (step item)) (items : List α) :
    Yields (items.mapM step) := by
  induction items with
  | nil => exact yields_pure []
  | cons item rest ih =>
    rw [List.mapM_cons]
    exact (h item).bind fun _ => ih.bind fun _ => yields_pure _

theorem quiet_beginSets (directory outputDirectory : Path) (name : Option String) :
    Quiet (beginSets directory outputDirectory name) := by
  refine Quiet.bind (quiet_acting fun files => ?_) fun begun => ?_
  · have value := DataSet.value_begin directory outputDirectory name files
    rw [FileAction.runOn] at value
    rw [value]
  · cases begun with
    | ok paths => exact quiet_pure paths
    | error error =>
      dsimp only
      split
      · exact quiet_fail _
      · exact quiet_orFault _ _

theorem select_of_beginSets {directory outputDirectory : Path} {name : Option String} {paths : List Path}
    (h : ran (beginSets directory outputDirectory name) workplace = (.ok paths, after)) :
    DataSet.select workplace.files directory name = .ok paths := by
  unfold beginSets at h
  obtain ⟨begun, between, acts, h⟩ := ran_bind_eq_ok h
  have value := DataSet.value_begin directory outputDirectory name workplace.files
  rw [FileAction.runOn] at value
  rw [ran_acting, value] at acts
  have same : DataSet.select workplace.files directory name = begun :=
    Except.ok.inj (Prod.mk.inj acts).1
  rw [same]
  cases begun with
  | ok found =>
    cases h
    rfl
  | error error =>
    dsimp only at h
    split at h <;> cases h

theorem ran_beginSets_ok {directory : Path} {name : Option String} {paths : List Path}
    (selected : DataSet.select workplace.files directory name = .ok paths) (outputDirectory : Path) :
    ∃ later, ran (beginSets directory outputDirectory name) workplace = (.ok paths, later) := by
  have value := DataSet.value_begin directory outputDirectory name workplace.files
  have acts := ran_acting (DataSet.begin directory outputDirectory name).run workplace
  rw [FileAction.runOn] at value
  rw [value, selected] at acts
  exact ⟨_, (ran_bind_ok acts _).trans rfl⟩

/-- What the data sets of a job leave: their modules over what stood before. -/
structure Job.Leaves (job : Job) (free : List Location) (made : FileSystem)
    (writes : List (Location × List UInt8)) (paths : List Path) (after : Log.Workplace) : Prop where
  data : ∀ path ∈ paths, DataSet.IsDataSet made path ∧ job.Seeks path
  apart : ∀ path ∈ paths, ∀ other ∈ paths, DataSet.moduleName path = DataSet.moduleName other → path = other
  standing : Standing free made (job.products made paths.reverse ++ writes) after

/-- The data sets are converted once they are selected. -/
theorem Job.ran_convertSets (job : Job) (cells : Nat) (workplace : Log.Workplace) :
    ran (job.convertSets cells) workplace =
      match ran (beginSets (job.settings.setsPath job.project) job.outputDirectory job.setName)
          (ran (tellAll (heading "02" "DATA SETS")) workplace).2 with
      | (.ok paths, between) => ran (paths.mapM (job.convertOne cells)) between
      | (.error ending, between) => (.error ending, between) := by
  have told := ran_tellAll (heading "02" "DATA SETS") workplace
  unfold Job.convertSets
  rw [ran_bind_ok told, ran_bind, told]
  rcases ran (beginSets (job.settings.setsPath job.project) job.outputDirectory job.setName) _ with
    ⟨ending | paths, between⟩ <;> rfl

/-- Unless there is a fault, a job reports of some data sets and leaves their modules; of none if it could not
start with them. -/
theorem Standing.convertSets (standing : Standing free made writes workplace) (tidy : Tidy made) {job : Job}
    (site : DataSet.Site free made job.outputDirectory) (cells : Nat) :
    (∃ fault, (ran (job.convertSets cells) workplace).1 = .error (.fault fault)) ∨
      ∃ paths, (ran (job.convertSets cells) workplace).1.toOption.getD [] = paths.map (job.outcome made) ∧
        job.Leaves free made writes paths (ran (job.convertSets cells) workplace).2 := by
  have standing := (quiet_tellAll (heading "02" "DATA SETS")).keeps standing
  have begins := quiet_beginSets (job.settings.setsPath job.project) job.outputDirectory job.setName
  rw [job.ran_convertSets]
  rcases begun : ran (beginSets (job.settings.setsPath job.project) job.outputDirectory job.setName)
      (ran (tellAll (heading "02" "DATA SETS")) workplace).2 with ⟨ending | paths, between⟩
  · have standing' := begins.keeps standing
    rw [begun] at standing'
    exact .inr ⟨[], rfl, fun _ mem => absurd mem List.not_mem_nil, fun _ mem => absurd mem List.not_mem_nil,
      standing'⟩
  · obtain ⟨data, apart⟩ := Job.dataSets_of_select tidy site.loose standing.written (select_of_beginSets begun)
    have standing' := begins.of_ok standing begun
    dsimp only
    rcases ended : ran (paths.mapM (job.convertOne cells)) between with ⟨ending | outcomes, later⟩
    · obtain ⟨fault, rfl⟩ :=
        (yields_mapM (fun path => job.yields_convertOne cells path) paths).fault (congrArg Prod.fst ended)
      exact .inl ⟨fault, rfl⟩
    · obtain ⟨rfl, stands⟩ := standing'.convertEach site (fun path mem => (data path mem).1) ended
      exact .inr ⟨paths, rfl, data, apart, stands⟩

/-! ## What a job leaves -/

/-- What is left of a job: the types module has its text exactly if no data set that is reported to have a module
has it in the same place, each of those modules has its text, and the data sets are as they were. -/
structure Job.Generated (job : Job) (outcomes : List DataSet.Outcome) (files after : FileSystem) : Prop where
  types : after.Holds job.typesPath (Text.Utf8.encode job.typesText) ↔
    ∀ outcome ∈ outcomes, ∀ target, outcome.result = .ok target →
      after.locate target ≠ after.locate job.typesPath
  module : ∀ outcome ∈ outcomes, ∀ target, outcome.result = .ok target →
    ∃ path text, job.Seeks path ∧ path.name = outcome.file ∧
      target = DataSet.modulePath job.outputDirectory path ∧
      (DataSet.readModule job.registry (dataModuleOf job.settings job.indent) path after).outcome = .ok text ∧
      after.Holds target (Text.Utf8.encode text)
  spared : Spares files after

theorem Job.outcome_eq_ok_iff {job : Job} {path target : Path} :
    (job.outcome made path).result = .ok target ↔ DataSet.modulePath job.outputDirectory path = target ∧
      ∃ write, DataSet.product job.registry (dataModuleOf job.settings job.indent) job.outputDirectory path made =
        .ok write := by
  rw [Job.outcome]
  dsimp only
  cases DataSet.product job.registry (dataModuleOf job.settings job.indent) job.outputDirectory path made with
  | error error => exact ⟨nofun, fun h => nomatch h.2⟩
  | ok write =>
    constructor
    · exact fun h => ⟨Except.ok.inj h, write, rfl⟩
    · rintro ⟨rfl, -⟩
      rfl

namespace Job.Leaves

variable {job : Job} {paths : List Path} {place : Location}

/-- Every module is found where it was written. -/
theorem held (leaves : job.Leaves free made writes paths after) (site : DataSet.Site free made job.outputDirectory)
    {path : Path} (mem : path ∈ paths) {content : List UInt8}
    (added : DataSet.product job.registry (dataModuleOf job.settings job.indent) job.outputDirectory path made =
      .ok (place, content)) :
    after.files.locate (DataSet.modulePath job.outputDirectory path) = .ok place ∧
      after.files.lookup? place = some (.file content) := by
  have written := leaves.standing.written
  obtain ⟨text, -, located, -, -, -⟩ := DataSet.product_eq_ok added
  refine ⟨written.locate_iff.2 located, written.lookup?_of_lookup ?_⟩
  have found := DataSet.lookup_products site (fun path mem => (leaves.data path (List.mem_reverse.1 mem)).1)
    (fun path mem other mem' => leaves.apart path (List.mem_reverse.1 mem) other (List.mem_reverse.1 mem'))
    (List.mem_reverse.2 mem) added
  rw [List.lookup_append, Job.products, found]
  rfl

/-- The place of the types module holds its text unless a module was written there. -/
theorem held_types (leaves : job.Leaves free made [(place, Text.Utf8.encode job.typesText)] paths after)
    (none : ∀ path ∈ paths, ∀ content, DataSet.product job.registry (dataModuleOf job.settings job.indent)
      job.outputDirectory path made ≠ .ok (place, content)) :
    after.files.lookup? place = some (.file (Text.Utf8.encode job.typesText)) := by
  refine leaves.standing.written.lookup?_of_lookup ?_
  have missing : (job.products made paths.reverse).lookup place = Option.none := by
    refine List.lookup_eq_none_iff.2 fun write mem => bne_iff_ne.2 fun same => ?_
    obtain ⟨path, mem, added⟩ := DataSet.mem_products_iff.1 mem
    exact none path (List.mem_reverse.1 mem) write.2 (same ▸ added)
  rw [List.lookup_append, missing, List.lookup_cons_self]
  rfl

theorem generated {files : FileSystem}
    (leaves : job.Leaves free made [(place, Text.Utf8.encode job.typesText)] paths after)
    (site : DataSet.Site free made job.outputDirectory) (located : made.locate job.typesPath = .ok place)
    (spares : Spares files made) : job.Generated (paths.map (job.outcome made)) files after.files := by
  have written := leaves.standing.written
  have located' := written.locate_iff.2 located
  refine ⟨⟨fun kept => ?_, fun apart => ?_⟩, ?_, spares.trans (spares_of_written site.loose written)⟩
  · refine List.forall_mem_map.2 fun path mem target succeeded meets => ?_
    obtain ⟨rfl, ⟨reached, content⟩, added⟩ := Job.outcome_eq_ok_iff.1 succeeded
    obtain ⟨leads, stands⟩ := leaves.held site mem added
    obtain ⟨text, known, -, -, -, rfl⟩ := DataSet.product_eq_ok added
    obtain ⟨place', leads', stands'⟩ := kept
    rw [← meets, leads] at leads'
    cases leads'
    rw [stands] at stands'
    have same : text = job.typesText :=
      Text.Utf8.eq_of_encode (Entry.file.inj (Option.some.inj stands'))
    exact TypesModule.ne_of_readModule known job.typesOptions same
  · refine ⟨place, located', leaves.held_types fun path mem content added => ?_⟩
    refine apart _ (List.mem_map_of_mem mem) _ (Job.outcome_eq_ok_iff.2 ⟨rfl, _, added⟩) ?_
    rw [(leaves.held site mem added).1, located']
  · refine List.forall_mem_map.2 fun path mem target succeeded => ?_
    obtain ⟨rfl, ⟨reached, content⟩, added⟩ := Job.outcome_eq_ok_iff.1 succeeded
    obtain ⟨leads, stands⟩ := leaves.held site mem added
    obtain ⟨text, known, -, -, -, rfl⟩ := DataSet.product_eq_ok added
    obtain ⟨data, sought⟩ := leaves.data path mem
    refine ⟨path, text, sought, rfl, rfl, ?_, ?_⟩
    · rw [written.readModule_eq _ _ site data, known]
    · exact ⟨_, leads, stands⟩

end Job.Leaves

theorem Job.yields_writeTypes (job : Job) (cells : Nat) : Yields (job.writeTypes cells) :=
  (yields_acting _).bind fun _ => (yields_orFault _ _).bind fun _ => (yields_print _ _).bind fun _ => yields_pure _

end ViewModel.Command
