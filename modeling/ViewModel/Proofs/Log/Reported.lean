import ViewModel.Proofs.Files.Absolute
import ViewModel.Proofs.Log.Isolation

/-!
# The session that is reported

The path of the session's file and the session itself are told on request. A setup closes the handlers of the
session before it at once, but what is reported of that session stays until its own is put in its place, and
its own is put there before its file is open. A setup that fails in between leaves a report of a session that
is not on. The file of a session is where the absolute path leads, in which double dots are taken back as they
are spelled, so the reported path may lead to another file.

* `Logging.Attached`, `Truthful`: what is reported is on, and what is on is reported;
* `Request.Misreports`: the failures that leave such a report;
* `truthful_iff`: a run ends with a true report unless its last setup or shutdown is such a failure;
* `session_reported_without_handler`: a run that ends with a report of a session that is closed;
* `session_kept_elsewhere`: a session whose records are not where its path leads.
-/

namespace ViewModel.Log

open Files
open Command (ran inSession getLast?_child)

variable {calls : List Call} {request : Request} {workplace : Workplace}

/-- Some handler keeps records in a file. -/
def Logging.Attached (logging : Logging) : Prop :=
  ∃ handler ∈ logging.handlers, ∃ place, handler.sink = .file place

/-- A session is reported exactly if one is on. -/
structure Truthful (logging : Logging) : Prop where
  file : logging.file ≠ none ↔ logging.Attached
  session : logging.session ≠ none ↔ logging.Attached

/-- The setup fails while an earlier session is still reported, or after it has made its directory, when its
own session is reported already. -/
def Request.Misreports (request : Request) (workplace : Workplace) : Prop :=
  (∃ error, (ran request.setup workplace).1 = .error error) ∧
    (workplace.logging.session ≠ none ∨ ∃ directory, request.given = .ok directory ∧
      (workplace.files.makeDirectories directory).1 = .ok ())

theorem truthful_inSession (start : Start) (path : Path) (place : Location) (threshold : Nat)
    (onTerminal : Bool) : Truthful (inSession start path place threshold onTerminal) := by
  have attached : (inSession start path place threshold onTerminal).Attached :=
    ⟨⟨.file place, threshold⟩, List.mem_map_of_mem List.mem_cons_self, place, rfl⟩
  exact ⟨iff_of_true nofun attached, iff_of_true nofun attached⟩

theorem not_attached_of_closed {logging : Logging} (closed : logging.handlers = []) : ¬ logging.Attached := by
  rintro ⟨handler, mem, -⟩
  simp [closed] at mem

theorem truthful_of_unreported {logging : Logging} (closed : logging.handlers = []) (file : logging.file = none)
    (session : logging.session = none) : Truthful logging := by
  have off := not_attached_of_closed closed
  exact ⟨by simp [file, off], by simp [session, off]⟩

/-- A path is reported exactly if a session is. -/
def Paired (logging : Logging) : Prop := logging.file.isSome = logging.session.isSome

theorem paired_setup (paired : Paired workplace.logging) (request : Request) :
    Paired (ran request.setup workplace).2.logging := by
  have how := arranged request workplace
  generalize ran request.setup workplace = ended at how ⊢
  cases how with
  | homeless given => exact paired
  | unmade given ensured => exact paired
  | unleveled given ensured refused => rfl
  | unopened given ensured known denied => rfl
  | opened given ensured known accessible =>
    rw [logging_logAll]
    rfl

theorem paired_after (paired : Paired workplace.logging) (calls : List Call) :
    Paired (after calls workplace).logging := by
  induction calls generalizing workplace with
  | nil => exact paired
  | cons call rest ih =>
    cases call with
    | setup request =>
      rw [after_setup]
      exact ih (paired_setup paired request)
    | shutdown => exact ih rfl
    | log level name message =>
      refine ih ?_
      change Paired (workplace.log _).logging
      rwa [logging_log]

/-- What a setup that fails reports. -/
theorem session_of_failed_setup {error : SetupError} (failed : (ran request.setup workplace).1 = .error error) :
    (ran request.setup workplace).2.logging.session ≠ none ↔ request.Misreports workplace := by
  have misreports : request.Misreports workplace ↔ workplace.logging.session ≠ none ∨
      ∃ directory, request.given = .ok directory ∧ (workplace.files.makeDirectories directory).1 = .ok () :=
    and_iff_right ⟨error, failed⟩
  rw [misreports]
  have how := arranged request workplace
  generalize ran request.setup workplace = ended at how failed ⊢
  cases how with
  | homeless given => simp [given, Logging.close]
  | unmade given ensured => simp [given, ensured, Logging.close]
  | unleveled given ensured refused => simp [given, ensured, Logging.named]
  | unopened given ensured known denied => simp [given, ensured, Logging.named]
  | opened given ensured known accessible => cases failed

/-- Of what a failed setup leaves nothing is on, so that it is true exactly if nothing is reported. -/
theorem truthful_of_failed_setup {error : SetupError} (paired : Paired workplace.logging)
    (failed : (ran request.setup workplace).1 = .error error) :
    Truthful (ran request.setup workplace).2.logging ↔ ¬ request.Misreports workplace := by
  have reported := session_of_failed_setup failed
  have closed : (ran request.setup workplace).2.logging.handlers = [] := by
    rcases logging_of_setup request workplace with ⟨-, closed, -⟩ | ⟨path, -, -, ended, -⟩
    · exact closed
    · simp [failed] at ended
  have paired' : Paired (ran request.setup workplace).2.logging :=
    paired_setup paired request
  constructor
  · intro truthful misreports
    exact not_attached_of_closed closed (truthful.session.1 (reported.2 misreports))
  · intro fair
    have session : (ran request.setup workplace).2.logging.session = none :=
      Classical.not_not.1 fun told => fair (reported.1 told)
    refine truthful_of_unreported closed ?_ session
    unfold Paired at paired'
    simpa [session] using paired'

/-- Where a handler keeps records in a file, the file is that of the session that was set up last. -/
theorem exists_of_handler (initial : workplace.logging = {}) {handler : Handler}
    (mem : handler ∈ (after calls workplace).logging.handlers) {place : Location}
    (sink : handler.sink = .file place) :
    ∃ before request logs path, calls = before ++ .setup request :: logs ∧ (∀ call ∈ logs, call.logs = true) ∧
      (after calls workplace).logging.file = some path ∧
      (after calls workplace).logging.session = some request.start ∧
      request.Opens (after before workplace) path place := by
  rcases logging_after_cases initial calls with left | ⟨before, request, logs, rfl, all, left⟩
  · simp [left] at mem
  · rw [left] at mem ⊢
    rcases logging_of_setup request (after before workplace) with
      ⟨-, closed, -⟩ | ⟨path, reached, threshold, -, opens, -, on⟩
    · simp [closed] at mem
    · rw [on] at mem ⊢
      cases eq_of_sink_inSession mem sink
      exact ⟨before, request, logs, path, rfl, all, rfl, rfl, opens⟩

/-- The path that a setup tells leads to a place. -/
def Request.Leads (request : Request) (workplace : Workplace) (path : Path) (place : Location) : Prop :=
  ∃ made, request.Makes workplace path made ∧ made.locate path = .ok place

/-- A setup opens the file that its path leads to, unless there are double dots in the path. -/
theorem Request.Opens.leads {path : Path} {place : Location} (opens : request.Opens workplace path place)
    (plain : ".." ∉ path.parts)
    (direct : path.root ≠ "" ∨ workplace.files.straight [] workplace.files.here = true) :
    request.Leads workplace path place := by
  obtain ⟨made, makes, located⟩ := opens
  obtain ⟨directory, -, ensured, -⟩ := id makes
  have keeps := (DataSet.adds_of_made ensured).keeps
  refine ⟨made, makes, FileSystem.locate_of_absolute plain (direct.imp_right fun straight => ?_) located⟩
  rw [keeps.here]
  exact keeps.straight straight

/-- **What is reported is on, but after some failures.** After any calls of the logging functions a path and a
session are reported exactly if a handler keeps records in a file, unless the last setup or shutdown is a setup
that fails while a session is reported or after it has made its directory. Whenever a handler keeps records in
a file, it is the one that the absolute form of the reported path led to when the reported session was set up,
and the one that the path itself led to if there are no double dots in it. -/
theorem truthful_iff (initial : workplace.logging = {}) :
    (Truthful (after calls workplace).logging ↔
      ∀ before request logs, calls = before ++ .setup request :: logs → (∀ call ∈ logs, call.logs = true) →
        ¬ request.Misreports (after before workplace)) ∧
    ∀ handler ∈ (after calls workplace).logging.handlers, ∀ place, handler.sink = .file place →
      ∃ before request logs path, calls = before ++ .setup request :: logs ∧ (∀ call ∈ logs, call.logs = true) ∧
        (after calls workplace).logging.file = some path ∧
        (after calls workplace).logging.session = some request.start ∧
        request.Opens (after before workplace) path place ∧
        (".." ∉ path.parts →
          path.root ≠ "" ∨ (after before workplace).files.straight [] (after before workplace).files.here = true →
          request.Leads (after before workplace) path place) := by
  have paired (before : List Call) : Paired (after before workplace).logging :=
    paired_after (by rw [initial]; rfl) before
  refine ⟨⟨?_, ?_⟩, ?_⟩
  · rintro truthful before request logs rfl all misreports
    obtain ⟨error, failed⟩ := misreports.1
    rw [logging_after_turn before _ all, after_setup, after_nil] at truthful
    exact (truthful_of_failed_setup (paired before) failed).1 truthful misreports
  · intro fair
    rcases logging_after_cases initial calls with left | ⟨before, request, logs, rfl, all, left⟩
    · rw [left]
      exact truthful_of_unreported rfl rfl rfl
    · rw [left]
      rcases logging_of_setup request (after before workplace) with
        ⟨⟨error, failed⟩, -⟩ | ⟨_, _, _, -, -, -, on⟩
      · exact (truthful_of_failed_setup (paired before) failed).2 (fair before request logs rfl all)
      · rw [on]
        exact truthful_inSession _ _ _ _ _
  · intro handler mem place sink
    obtain ⟨before, request, logs, path, same, all, file, session, opens⟩ := exists_of_handler initial mem sink
    exact ⟨before, request, logs, path, same, all, file, session, opens, opens.leads⟩

/-- A workplace with a directory for logs, and a file. -/
def office : Workplace := { files := { entries := [(["logs"], .directory), (["f"], .file [])] } }

/-- A session with its file below the root. -/
def badge (id directory : String) : Request :=
  { start := ⟨id, "20240101_000000"⟩
    environment := .empty
    level := some "INFO"
    directory := some ⟨"/", [directory]⟩
    onTerminal := false }

def visitor : Request := badge "aaaaaa" "logs"

def latecomer : Request := badge "bbbbbb" "f"

/-- A first session is set up. -/
theorem ran_setup_badge : ∃ place threshold,
    (ran visitor.setup office).1 = .ok (visitor.file ⟨"/", ["logs"]⟩) ∧
      (ran visitor.setup office).2.logging = inSession visitor.start
        (visitor.file ⟨"/", ["logs"]⟩) place threshold false ∧
      (ran visitor.setup office).2.files.obstacles = [] := by
  have ensured : office.files.makeDirectories ⟨"/", ["logs"]⟩ = (.ok (), office.files) := by
    refine FileSystem.makeDirectories_of_isDirectory (by decide)
      (FileSystem.isDirectory_iff.2 ⟨["logs"], ?_, rfl⟩)
    exact FileSystem.locate_of_straight rfl (by decide +kernel)
  have located : office.files.locate ((visitor.file ⟨"/", ["logs"]⟩).absolute []) =
      .ok ["logs", fileName visitor.start] := FileSystem.locate_of_straight rfl (by decide +kernel)
  have accessible : openFile office.files (visitor.file ⟨"/", ["logs"]⟩) =
      .ok (["logs", fileName visitor.start],
        office.files.put ["logs", fileName visitor.start] (.file [])) :=
    Command.openFile_eq_ok_iff.2 ⟨located, nofun, rfl, rfl⟩
  have known : Log.threshold visitor.word = .ok 20 := by decide +kernel
  have given : visitor.given = .ok ⟨"/", ["logs"]⟩ := rfl
  rw [ran_setup_of_accessible given ensured known accessible]
  refine ⟨_, _, rfl, logging_logAll _ _, (obstacles_logAll _ _).trans ?_⟩
  exact (Command.relinked_pointLatest _ _ _).obstacles

/-- A directory cannot be made where a file is. -/
theorem makeDirectories_of_file {files : FileSystem} {content : List UInt8}
    (clear : files.obstacles = []) (held : files.lookup? ["f"] = some (.file content)) :
    files.makeDirectories ⟨"/", ["f"]⟩ = (.error ⟨.occupied, ⟨"/", ["f"]⟩⟩, files) := by
  have passable : files.meets [] .impassable = false := by simp [FileSystem.meets, clear]
  have leads : files.onward [] "f" = .ok ["f"] :=
    (FileSystem.onward_eq_ok_iff (by decide)).2 ⟨passable, by decide, rfl⟩
  have unlinked (target : String) : files.lookup? ([] ++ ["f"]) ≠ some (.link target) := by simp [held]
  have above : files.locate (FileSystem.parentOf ⟨"/", ["f"]⟩) = .ok [] := FileSystem.locate_of_straight rfl rfl
  have way : files.locateLink ⟨"/", ["f"]⟩ = .ok ["f"] := by
    have ends : (⟨"/", ["f"]⟩ : Path).parts.getLast? = some "f" := rfl
    exact (FileSystem.locateLink_of_parent ends (by decide) rfl above rfl).trans leads
  have located : files.locate ⟨"/", ["f"]⟩ = .ok ["f"] :=
    FileSystem.locate_eq_ok_iff.2 ⟨rfl, (FileSystem.walk_of_unlinked rfl unlinked _).trans leads⟩
  have found : files.stat ⟨"/", ["f"]⟩ = .ok (.file content) := by
    rw [FileSystem.stat, located]
    change files.present ["f"] = _
    rw [FileSystem.present, held]
  have created : files.create ⟨"/", ["f"]⟩ .directory = .error ⟨.occupied, ⟨"/", ["f"]⟩⟩ := by
    simp [FileSystem.create, way, held]
  have file : files.isDirectory ⟨"/", ["f"]⟩ = .ok false := by
    simp [FileSystem.isDirectory, FileSystem.leadsTo, found]
  change FileSystem.ensure files "/" ["f"] = _
  unfold FileSystem.ensure
  simp [created, file, FileSystem.settle]

/-- A visitor's session is set up, and then recorded in. -/
def visit : List Call := [.setup visitor, .log .warning "plugins" "seen"]

/-- What is reported of the visitor's session is on. -/
theorem truthful_visit : Truthful (after visit office).logging := by
  obtain ⟨place, threshold, ended, -⟩ := ran_setup_badge
  refine (truthful_iff rfl).1.2 ?_
  intro before request logs same _ misreports
  have first : before = [] ∧ request = visitor := by
    cases before with
    | nil => exact ⟨rfl, (Call.setup.inj (List.cons.inj same).1).symm⟩
    | cons call before =>
      have rest := (List.cons.inj same).2
      cases before <;> simp at rest
  obtain ⟨rfl, rfl⟩ := first
  obtain ⟨⟨error, failed⟩, -⟩ := misreports
  simp [ended] at failed

/-- A second session is asked for where no directory can be made. -/
def revisit : List Call := [.setup visitor, .setup latecomer]

/-- The second session cannot be set up, and the first one is closed by then, but it is still reported. -/
theorem session_reported_without_handler :
    (ran latecomer.setup (after [.setup visitor] office)).1 =
        .error (.files ⟨.occupied, ⟨"/", ["f"]⟩⟩) ∧
      (after revisit office).logging.handlers = [] ∧
      (after revisit office).logging.session = some visitor.start ∧
      ¬ Truthful (after revisit office).logging := by
  obtain ⟨place, threshold, -, on, clear⟩ := ran_setup_badge
  have unlinked : Unlinked (fileName visitor.start) office.files := by
    intro above target link
    have mem := FileSystem.mem_entries_of_lookup? link (by simp)
    simp [office] at mem
  have spared : Spared "f" office.files (after [.setup visitor] office).files := by
    rw [after_setup, after_nil]
    exact (spared_setup unlinked (by decide) (by decide)).1
  have held : office.files.lookup? ([] ++ ["f"]) = some (.file []) := rfl
  have given : latecomer.given = .ok ⟨"/", ["f"]⟩ := rfl
  have clear : (after [.setup visitor] office).files.obstacles = [] := by rwa [after_setup, after_nil]
  have failed := ran_setup_of_unmade given (makeDirectories_of_file clear (spared.lookup? held))
  have left : (after revisit office).logging = (inSession visitor.start
      (visitor.file ⟨"/", ["logs"]⟩) place threshold false).close := by
    change (after ([.setup visitor] ++ [.setup latecomer]) office).logging = _
    rw [after_append, after_setup _ [], after_nil, failed, ← on, after_setup, after_nil]
  rw [failed, left]
  refine ⟨rfl, rfl, rfl, fun truthful => ?_⟩
  exact not_attached_of_closed rfl (truthful.session.1 nofun)

/-- A workplace with a link into another directory, and with directories for logs here and there. -/
def attic : Workplace :=
  { files := { entries := [
      (["far"], .directory), (["far", "deep"], .directory), (["far", "logs"], .directory),
      (["link"], .link "far/deep"), (["logs"], .directory)] } }

/-- A session whose directory is to be reached by way of the link. -/
def roundabout : Request := { visitor with directory := some ⟨"", ["link", "..", "logs"]⟩ }

/-- In the attic a double dot after the link goes up from where that leads. -/
theorem locate_attic {steps : List String} (checked : FileSystem.checkText (⟨"", steps⟩ : Path).text = .ok ())
    {rest : List String} (way : steps = "link" :: ".." :: rest) (straight : attic.files.straight ["far"] rest = true) :
    attic.files.locate ⟨"", steps⟩ = .ok (["far"] ++ rest) := by
  refine FileSystem.locate_eq_ok_iff.2 ⟨checked, ?_⟩
  have follows : attic.files.advance FileSystem.linkLimit [] "link" = .ok ⟨39, [], ["far", "deep"]⟩ := rfl
  have goesUp : attic.files.advance 39 ["far", "deep"] ".." = .ok ⟨39, ["far"], []⟩ := rfl
  change attic.files.walk FileSystem.linkLimit [] steps = _
  rw [way, FileSystem.walk_cons, follows]
  change attic.files.walk 39 [] (["far", "deep"] ++ ".." :: rest) = _
  rw [FileSystem.walk_append_of_straight (by decide +kernel), List.nil_append, FileSystem.walk_cons, goesUp]
  exact FileSystem.walk_of_straight straight 39

/-- The session is on and its path is reported, but its records are not where that path leads. -/
theorem session_kept_elsewhere : ∃ path threshold, (ran roundabout.setup attic).1 = .ok path ∧
    (ran roundabout.setup attic).2.logging =
      inSession roundabout.start path ["logs", fileName roundabout.start] threshold false ∧
    roundabout.Leads attic path ["far", "logs", fileName roundabout.start] := by
  have given : roundabout.given = .ok ⟨"", ["link", "..", "logs"]⟩ := rfl
  have ensured : attic.files.makeDirectories ⟨"", ["link", "..", "logs"]⟩ = (.ok (), attic.files) := by
    refine FileSystem.makeDirectories_of_isDirectory (by decide)
      (FileSystem.isDirectory_iff.2 ⟨["far", "logs"], ?_, rfl⟩)
    exact locate_attic rfl rfl (by decide +kernel)
  have opened : attic.files.locate ((roundabout.file ⟨"", ["link", "..", "logs"]⟩).absolute []) =
      .ok ["logs", fileName roundabout.start] := FileSystem.locate_of_straight rfl (by decide +kernel)
  have accessible := Command.openFile_eq_ok_iff.2 ⟨opened, nofun, rfl, rfl⟩
  have known : Log.threshold roundabout.word = .ok 20 := by decide +kernel
  rw [ran_setup_of_accessible given ensured known accessible]
  refine ⟨_, _, rfl, logging_logAll _ _, attic.files, ⟨_, given, ensured, rfl⟩, ?_⟩
  exact locate_attic rfl rfl (by decide +kernel)

end ViewModel.Log
