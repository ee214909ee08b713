import ViewModel.Proofs.Command.Modules
import ViewModel.Proofs.DataSet.Independence
import ViewModel.Proofs.Schema.Directory

/-!
# Generation

A run that ends without a fault wrote the types module first and then the modules of the data sets. It keeps the
types module exactly if no data set has its module in the same place.

* `exists_leaves`: what a run leaves once it ends without a fault;
* `generate_keeps_types_iff`: which runs keep the types module;
* `desk_loses_types`: a run that does not, although it ends well.
-/

namespace ViewModel.Command

open Files

variable {free : List Location} {made : FileSystem} {writes : List (Location × List UInt8)}
  {surroundings : Surroundings} {given : Given} {job : Job} {start ready workplace : Log.Workplace}

/-- What follows the data sets changes no module. -/
theorem Job.Leaves.conclude {job : Job} {paths : List Path} (leaves : job.Leaves free made writes paths workplace)
    (cells : Nat) (summary : DataSet.Summary) :
    job.Leaves free made writes paths (ran (conclude cells summary) workplace).2 :=
  { leaves with standing := (quiet_conclude cells summary).keeps leaves.standing }

/-- How a run goes on after the types module. -/
theorem ran_generate {surroundings : Surroundings} {given : Given} {job : Job} {start ready : Log.Workplace}
    (prepared : ran (prepare surroundings given) start = (.ok job, ready)) (whole : job.typesOnly = false)
    {path : Path} (wrote : ran (job.writeTypes surroundings.cells) ready = (.ok path, workplace)) :
    ran (generate surroundings given) start =
      match ran (job.convertSets surroundings.cells) workplace with
      | (.ok outcomes, later) => ran (conclude surroundings.cells (.ofOutcomes outcomes)) later
      | (.error ending, later) => (.error ending, later) := by
  unfold generate
  rw [ran_bind_ok prepared, ran_bind_ok wrote, whole, if_neg Bool.false_ne_true, ran_bind]
  rcases ran (job.convertSets surroundings.cells) workplace with ⟨ending | outcomes, later⟩ <;> rfl

/-- What a run leaves: the types module, and over it the modules of the data sets that are reported. -/
theorem exists_leaves (tidy : Tidy start.files) (fresh : Fresh surroundings.start start.files)
    (prepared : ran (prepare surroundings given) start = (.ok job, ready)) (whole : job.typesOnly = false)
    (faultless : ∀ fault, (ran (generate surroundings given) start).1 ≠ .error (.fault fault)) :
    ∃ free made place paths, made.locate job.typesPath = .ok place ∧ Spares start.files made ∧
      DataSet.Site free made job.outputDirectory ∧
      job.reported surroundings.cells ready = paths.map (job.outcome made) ∧
      job.Leaves free made [(place, Text.Utf8.encode job.typesText)] paths
        (ran (generate surroundings given) start).2 := by
  have proper : job.outputDirectory.Proper := by
    rw [outputDirectory_of_prepare prepared]
    exact Path.proper_ofText _
  obtain ⟨spares, place, prepared'⟩ := prepared_of_ran tidy fresh prepared
  rcases wrote : ran (job.writeTypes surroundings.cells) ready with ⟨ending | path, between⟩
  · obtain ⟨fault, rfl⟩ := (job.yields_writeTypes surroundings.cells).fault (congrArg Prod.fst wrote)
    refine absurd ?_ (faultless fault)
    unfold generate
    rw [ran_bind_ok prepared, ran_bind_error wrote]
  · obtain ⟨made, place', ensured, located, standing⟩ := prepared'.writeTypes proper wrote
    have site := prepared'.site proper ensured
    have adds := DataSet.adds_of_made ensured
    have reports : job.reported surroundings.cells ready =
        (ran (job.convertSets surroundings.cells) between).1.toOption.getD [] := by
      rw [Job.reported, ran_bind_ok wrote]
    rw [ran_generate prepared whole wrote] at faultless ⊢
    rcases standing.convertSets (prepared'.tidy.of_adds adds) site surroundings.cells with
      ⟨fault, failed⟩ | ⟨paths, outcomes, leaves⟩
    · rcases ended : ran (job.convertSets surroundings.cells) between with ⟨ending | outcomes, later⟩
      · rw [ended] at failed faultless
        cases failed
        exact absurd rfl (faultless fault)
      · rw [ended] at failed
        cases failed
    · refine ⟨_, made, place', paths, located, spares.trans (spares_of_adds adds), site, reports.trans outcomes, ?_⟩
      rcases ended : ran (job.convertSets surroundings.cells) between with ⟨ending | found, later⟩ <;>
        rw [ended] at leaves
      · exact leaves
      · exact leaves.conclude _ _

/-- A run that ends without a fault keeps the types module exactly if no data set that it reports to have a module
has it in the same place. The modules of the data sets, each of which it keeps, never meet each other. -/
theorem generate_keeps_types_iff (tidy : Tidy start.files) (fresh : Fresh surroundings.start start.files)
    (prepared : ran (prepare surroundings given) start = (.ok job, ready)) (whole : job.typesOnly = false)
    (faultless : ∀ fault, (ran (generate surroundings given) start).1 ≠ .error (.fault fault)) :
    job.Generated (job.reported surroundings.cells ready) start.files
      (ran (generate surroundings given) start).2.files := by
  obtain ⟨free, made, place, paths, located, spares, site, reports, leaves⟩ :=
    exists_leaves tidy fresh prepared whole faultless
  rw [reports]
  exact leaves.generated site located spares

/-! ## A desk -/

/-- A project with one data set, beside a directory for records and one for modules. -/
def desk : Log.Workplace :=
  { files :=
      { entries := [
          (["l"], .directory),
          (["o"], .directory),
          (["p"], .directory),
          (["p", ".noesis"], .directory),
          (["p", ".noesis", "data"], .directory),
          (["p", ".noesis", "data", "structures"], .directory),
          (["p", ".noesis", "data", "sets"], .directory),
          (["p", ".noesis", "data", "sets", "NoesisTypes.xaml"], .file (Text.Utf8.encode "<Visibility/>"))] } }

def deskSurroundings : Surroundings := ⟨⟨"7", "now"⟩, .empty, 80⟩

def deskWords : Given := { flags := [(logFlag, some "l")], words := ["p", "o", "NoesisTypes"] }

def deskSettings : Settings :=
  { indent := 2, verbose := false, typesOnly := false, dataDirectory := ".noesis/data"
    structuresDirectory := "structures", setsDirectory := "sets", typesModule := "NoesisTypes"
    imageModule := "horizon/ui", defaultFont := "Bangers", contextName := "dataContext", logLevel := "INFO"
    home := ⟨"/", [".noesisgen"]⟩ }

def deskJob : Job :=
  { settings := deskSettings, project := Path.ofText "p", outputDirectory := Path.ofText "o"
    setName := some "NoesisTypes", typesOnly := false, indent := 2, registry := Schema.Registry.empty.seed }

/-- Where the records of the run go. -/
def deskLog : Location := ["l", "noesisgen_now_7.log"]

/-- The files once the session is set up, without its records. -/
def deskBase : FileSystem :=
  (desk.files.put deskLog (.file [])).put ["l", "noesisgen.log"] (.link "noesisgen_now_7.log")

theorem ran_readSettings_desk : ran (readSettings deskSurroundings) desk = (.ok deskSettings, desk) := by
  have located : desk.files.locate Settings.assignmentsPath = .ok [".env"] :=
    FileSystem.locate_of_straight rfl (by decide +kernel)
  have absent : desk.files.isFile Settings.assignmentsPath = .ok false := by
    rw [FileSystem.isFile, FileSystem.leadsTo, FileSystem.stat, located]
    rfl
  have unread : readAssignments desk.files = .ok none := by
    rw [readAssignments, absent]
    rfl
  unfold readSettings
  refine (ran_bind_ok rfl _).trans ?_
  rw [ran_bind, ran_orFault]
  rw [unread]
  rfl

theorem isDirectory_desk : desk.files.isDirectory (Path.ofText "l") = .ok true :=
  FileSystem.isDirectory_iff.2 ⟨["l"], FileSystem.locate_of_straight rfl (by decide +kernel), rfl⟩

theorem ran_openSession_desk :
    ∃ path ready, ran (openSession deskSurroundings deskSettings (some "l") false) desk = (.ok path, ready) ∧
      Standing [deskLog] deskBase [] ready := by
  have ensured : desk.files.makeDirectories (Path.ofText "l") = (.ok (), desk.files) :=
    FileSystem.makeDirectories_of_isDirectory (by decide) isDirectory_desk
  have known : Log.threshold (Log.levelWord deskSurroundings.environment (some deskSettings.logLevel)) = .ok 20 := by
    decide +kernel
  have located : desk.files.locate (((Path.ofText "l").child (Log.fileName deskSurroundings.start)).absolute
      desk.files.here) = .ok deskLog := FileSystem.locate_of_straight rfl (by decide +kernel)
  have accessible : Log.openFile desk.files ((Path.ofText "l").child (Log.fileName deskSurroundings.start)) =
      .ok (deskLog, desk.files.put deskLog (.file [])) :=
    openFile_eq_ok_iff.2 ⟨located, nofun, rfl, rfl⟩
  have linked : Log.pointLatest (desk.files.put deskLog (.file [])) (Path.ofText "l")
      ((Path.ofText "l").child (Log.fileName deskSurroundings.start)).name = deskBase := by
    have above : (desk.files.put deskLog (.file [])).locate (FileSystem.parentOf ((Path.ofText "l").child Log.latestName)) =
        .ok ["l"] := FileSystem.locate_of_straight rfl (by decide +kernel)
    have way : (desk.files.put deskLog (.file [])).locateLink ((Path.ofText "l").child Log.latestName) =
        .ok ["l", "noesisgen.log"] :=
      FileSystem.locateLink_of_parent (getLast?_child _ _) (by decide) rfl above rfl
    have missing : (desk.files.put deskLog (.file [])).remove ((Path.ofText "l").child Log.latestName) =
        .error ⟨.missing, (Path.ofText "l").child Log.latestName⟩ := by
      rw [FileSystem.remove, way]
      rfl
    have created : (desk.files.put deskLog (.file [])).create ((Path.ofText "l").child Log.latestName)
        (.link "noesisgen_now_7.log") = .ok deskBase := by
      rw [FileSystem.create, way]
      rfl
    have named : ((Path.ofText "l").child (Log.fileName deskSurroundings.start)).name = "noesisgen_now_7.log" := rfl
    unfold Log.pointLatest
    dsimp only
    rw [missing, named]
    dsimp only
    rw [if_pos rfl, created]
  have ended : ran (Log.setup deskSurroundings.start deskSurroundings.environment (some deskSettings.logLevel)
      (some (Path.ofText "l")) false) desk = _ := ran_setup ensured known accessible
  rw [linked] at ended
  have opens := ran_adapt (fun error => Ending.fault (.session error))
    (Log.setup deskSurroundings.start deskSurroundings.environment (some deskSettings.logLevel)
      (some (Path.ofText "l")) false) desk
  rw [ended] at opens
  have standing : Standing [deskLog] deskBase [] { desk with
      files := deskBase
      logging := inSession deskSurroundings.start
        ((Path.ofText "l").child (Log.fileName deskSurroundings.start)) deskLog 20 false } := by
    refine ⟨⟨FileSystem.Overlaid.refl ?_ ?_, ?_⟩, ?_⟩
    · unfold FileSystem.Distinct
      decide +kernel
    · exact List.forall_mem_singleton.2 ⟨[], rfl⟩
    · exact fun _ mem => absurd mem List.not_mem_nil
    · intro handler mem place sink
      rw [List.mem_singleton.1 mem] at sink
      cases sink
      exact List.mem_singleton_self _
  exact ⟨_, _, opens, standing.logAll _⟩

/-- Without structure files there are the built-in structures only. -/
theorem ran_loadProject_desk (standing : Standing [deskLog] deskBase [] workplace) :
    ∃ later, ran (loadProject deskSettings (Path.ofText "p")) workplace =
      (.ok Schema.Registry.empty.seed, later) ∧ Standing [deskLog] deskBase [] later := by
  have overlaid := standing.written.toOverlaid
  have located : workplace.files.locate (deskSettings.structuresPath (Path.ofText "p")) =
      .ok ["p", ".noesis", "data", "structures"] :=
    overlaid.locate_iff.2 (FileSystem.locate_of_straight rfl (by decide +kernel))
  have there := overlaid.keeps.directory ["p", ".noesis", "data", "structures"] rfl
  have childless : workplace.files.children ["p", ".noesis", "data", "structures"] = [] := by
    refine List.eq_nil_iff_forall_not_mem.2 fun name mem => FileSystem.mem_children_iff.1 mem ?_
    rw [overlaid.lookup?_of_not_mem (by simp [deskLog]) List.not_mem_nil]
    rfl
  have listed : workplace.files.listFiles (deskSettings.structuresPath (Path.ofText "p")) Schema.structureSuffix =
      .ok [] := by
    have readable := FileSystem.meets_congr overlaid.obstacles ["p", ".noesis", "data", "structures"] .unreadable
    have listed := FileSystem.list_of_located located there readable
    rw [childless] at listed
    exact FileSystem.listFiles_of_list listed fun name mem => absurd mem List.not_mem_nil
  have loaded : (Schema.loadDirectory workplace.files (deskSettings.structuresPath (Path.ofText "p"))).outcome =
      .ok Schema.Registry.empty.seed := by
    rw [Schema.loadDirectory, Attempt.outcome_bind, Schema.outcome_readSources listed]
    rfl
  have reads := ran_reading (Schema.loadDirectory · (deskSettings.structuresPath (Path.ofText "p"))) workplace
  rw [loaded] at reads
  exact ⟨_, (ran_bind_ok reads _).trans rfl, (quiet_reading _).of_ok standing reads⟩

theorem ran_prepare_desk : ∃ ready, ran (prepare deskSurroundings deskWords) desk = (.ok deskJob, ready) ∧
    Standing [deskLog] deskBase [] ready := by
  obtain ⟨path, opened, opens, standing⟩ := ran_openSession_desk
  have standing := (quiet_tellAll (heading "01" "STRUCTURES")).keeps ((quiet_tellAll banner).keeps standing)
  obtain ⟨loaded, loads, standing⟩ := ran_loadProject_desk standing
  obtain ⟨shown, shows⟩ := ran_print_ok (done ("Loaded " ++ toString Schema.Registry.empty.seed.size ++ " structures"))
    (by decide +kernel) 80 loaded
  refine ⟨_, (ran_bind_ok ran_readSettings_desk _).trans ((ran_bind_ok opens _).trans ?_),
    (quiet_print _ _).of_ok standing shows⟩
  refine (ran_bind_ok (ran_tellAll _ _) _).trans ((ran_bind_ok (ran_tellAll _ _) _).trans ?_)
  exact (ran_bind_ok loads _).trans ((ran_bind_ok shows _).trans rfl)

theorem unlinked_desk (place : Location) (target : String) : desk.files.lookup? place ≠ some (.link target) := by
  intro link
  by_cases top : place = []
  · rw [FileSystem.lookup?, if_pos top] at link
    cases link
  · have mem := FileSystem.mem_entries_of_lookup? link top
    simp [desk] at mem

theorem tidy_desk : Tidy desk.files := by
  refine ⟨?_, rfl, fun place target link => absurd link (unlinked_desk place target), ?_⟩
  · unfold FileSystem.Distinct
    decide +kernel
  · intro above name content held
    have mem := FileSystem.mem_entries_of_lookup? held (by simp)
    obtain ⟨named, -⟩ : above ++ [name] = ["p", ".noesis", "data", "sets"] ++ ["NoesisTypes.xaml"] ∧
        content = Text.Utf8.encode "<Visibility/>" := by simpa [desk] using mem
    obtain ⟨-, names⟩ := List.append_inj' named rfl
    cases names
    decide

theorem fresh_desk : Fresh deskSurroundings.start desk.files :=
  ⟨by decide, fun _ _ => unlinked_desk _ _⟩

/-- The data set, whose module has the name of the types module. -/
def deskSet : Path := ⟨"", ["p", ".noesis", "data", "sets", "NoesisTypes.xaml"]⟩

/-- What is reported of the data set where the directories are. -/
theorem outcome_desk {made : FileSystem} (overlaid : FileSystem.Overlaid [deskLog] deskBase [] made) :
    DataSet.IsDataSet made deskSet ∧ deskJob.outcome made deskSet = ⟨"NoesisTypes.xaml", .ok deskJob.typesPath⟩ := by
  have located : made.locate deskSet = .ok deskSet.parts :=
    overlaid.locate_iff.2 (FileSystem.locate_of_straight rfl (by decide +kernel))
  have held : made.lookup? deskSet.parts = some (.file (Text.Utf8.encode "<Visibility/>")) := by
    rw [overlaid.lookup?_of_not_mem (by decide) List.not_mem_nil]
    rfl
  obtain ⟨text, known⟩ : DataSet.Known deskJob.registry (dataModuleOf deskJob.settings deskJob.indent) deskSet made := by
    have sound := FileSystem.meets_congr overlaid.obstacles deskSet.parts
    have content := FileSystem.contentAt_eq_ok_iff.2 ⟨held, sound .unreadable, sound .damaged⟩
    refine DataSet.known_of_read (FileSystem.read_eq_ok_iff.2 ⟨_, located, content⟩)
      (Text.Utf8.decode_encode_of_ascii (by decide) (by decide))
      (by decide +kernel : _ = some ("Visibility", true)) ?_
    decide +kernel
  have reached : made.locate (DataSet.modulePath deskJob.outputDirectory deskSet) = .ok ["o", "NoesisTypes.ts"] :=
    overlaid.locate_iff.2 (FileSystem.locate_of_straight rfl (by decide +kernel))
  have vacant : made.lookup? ["o", "NoesisTypes.ts"] ≠ some .directory := by
    rw [overlaid.lookup?_of_not_mem (by decide) List.not_mem_nil]
    intro there
    cases there
  refine ⟨⟨FileSystem.isFile_iff.2 ⟨_, _, located, held⟩, by decide, by decide⟩, ?_⟩
  have added : DataSet.product deskJob.registry (dataModuleOf deskJob.settings deskJob.indent)
      deskJob.outputDirectory deskSet made = .ok (["o", "NoesisTypes.ts"], Text.Utf8.encode text) := by
    have permitted : made.permitsWriting ["o", "NoesisTypes.ts"] = true := overlaid.permitsWriting_eq _
    unfold DataSet.product
    rw [known, reached]
    dsimp only
    rw [if_neg vacant, if_pos permitted]
  rw [Job.outcome, added]
  rfl

/-- The run ends well, and reports that the data set has a module, which is where the types module is. -/
theorem ran_generate_desk :
    ∃ ready after, ran (prepare deskSurroundings deskWords) desk = (.ok deskJob, ready) ∧
      ran (generate deskSurroundings deskWords) desk = (.ok (), after) ∧
      deskJob.reported deskSurroundings.cells ready = [⟨"NoesisTypes.xaml", .ok deskJob.typesPath⟩] := by
  obtain ⟨ready, prepared, standing⟩ := ran_prepare_desk
  obtain ⟨-, place, prepared'⟩ := prepared_of_ran tidy_desk fresh_desk prepared
  have overlaid := standing.written.toOverlaid
  have proper : deskJob.outputDirectory.Proper := Path.proper_ofText "o"
  have ensured : ready.files.makeDirectories deskJob.outputDirectory = (.ok (), ready.files) := by
    refine FileSystem.makeDirectories_of_isDirectory proper.dotless (overlaid.keeps.isDirectory ?_)
    exact FileSystem.isDirectory_iff.2 ⟨["o"], FileSystem.locate_of_straight rfl (by decide +kernel), rfl⟩
  have located : ready.files.locate deskJob.typesPath = .ok ["o", "NoesisTypes.ts"] :=
    overlaid.locate_iff.2 (FileSystem.locate_of_straight rfl (by decide +kernel))
  have vacant : ready.files.lookup? ["o", "NoesisTypes.ts"] ≠ some .directory := by
    rw [overlaid.lookup?_of_not_mem (by decide) List.not_mem_nil]
    intro there
    cases there
  obtain ⟨between, wrote⟩ := deskJob.ran_writeTypes_ok ensured located vacant
    (overlaid.permitsWriting_eq _) (by decide +kernel) deskSurroundings.cells
  obtain ⟨made, place', ensured', located', standing'⟩ := prepared'.writeTypes proper wrote
  rw [ensured] at ensured'
  cases ensured'
  have site := prepared'.site proper ensured
  obtain ⟨data, outcome⟩ := outcome_desk overlaid
  have standing' := (quiet_tellAll (heading "02" "DATA SETS")).keeps standing'
  have selected : DataSet.select (ran (tellAll (heading "02" "DATA SETS")) between).2.files
      (deskJob.settings.setsPath deskJob.project) deskJob.setName = .ok [deskSet] :=
    select_of_isFile (by decide) (isFile_of_isDataSet site.direct site.loose standing'.written data)
  obtain ⟨begun, begins⟩ := ran_beginSets_ok selected deskJob.outputDirectory
  have standing' := (quiet_beginSets _ _ _).of_ok standing' begins
  obtain ⟨later, converts⟩ := standing'.ran_convertOne_ok site data (by rw [outcome]; rfl) (by decide +kernel)
    deskSurroundings.cells
  have sets : ran (deskJob.convertSets deskSurroundings.cells) between =
      (.ok [⟨"NoesisTypes.xaml", .ok deskJob.typesPath⟩], later) := by
    rw [deskJob.ran_convertSets, begins]
    dsimp only
    rw [List.mapM_cons, List.mapM_nil, ran_bind_ok converts, outcome]
    rfl
  have errors : (DataSet.Summary.ofOutcomes [⟨"NoesisTypes.xaml", .ok deskJob.typesPath⟩]).errors = [] := rfl
  obtain ⟨after, concludes⟩ := ran_conclude_ok deskSurroundings.cells errors rfl (by decide +kernel) later
  refine ⟨ready, after, prepared, ?_, ?_⟩
  · rw [ran_generate prepared rfl wrote, sets]
    exact concludes
  · rw [Job.reported, ran_bind_ok wrote, sets]
    rfl

/-- On the desk every condition is met, and what is left is as described. -/
theorem generate_keeps_types_iff_desk :
    ∃ ready, ran (prepare deskSurroundings deskWords) desk = (.ok deskJob, ready) ∧
      (∀ fault, (ran (generate deskSurroundings deskWords) desk).1 ≠ .error (.fault fault)) ∧
      deskJob.Generated (deskJob.reported deskSurroundings.cells ready) desk.files
        (ran (generate deskSurroundings deskWords) desk).2.files := by
  obtain ⟨ready, after, prepared, ended, -⟩ := ran_generate_desk
  have faultless : ∀ fault, (ran (generate deskSurroundings deskWords) desk).1 ≠ .error (.fault fault) := by
    intro fault failed
    rw [ended] at failed
    cases failed
  exact ⟨ready, prepared, faultless, generate_keeps_types_iff tidy_desk fresh_desk prepared rfl faultless⟩

/-- The run on the desk loses the types module, although it ends well. -/
theorem desk_loses_types :
    (ran (generate deskSurroundings deskWords) desk).1 = .ok () ∧
      ¬ (ran (generate deskSurroundings deskWords) desk).2.files.Holds deskJob.typesPath
        (Text.Utf8.encode deskJob.typesText) := by
  obtain ⟨ready, after, prepared, ended, reports⟩ := ran_generate_desk
  have faultless : ∀ fault, (ran (generate deskSurroundings deskWords) desk).1 ≠ .error (.fault fault) := by
    intro fault failed
    rw [ended] at failed
    cases failed
  refine ⟨congrArg Prod.fst ended, fun kept => ?_⟩
  obtain ⟨free, made, place, paths, located, spares, site, reported, leaves⟩ :=
    exists_leaves tidy_desk fresh_desk prepared rfl faultless
  have generated := leaves.generated site located spares
  rw [← reported, reports] at generated
  exact generated.types.1 kept _ List.mem_cons_self _ rfl rfl

end ViewModel.Command
