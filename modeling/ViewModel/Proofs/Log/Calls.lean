import ViewModel.Proofs.Command.Session

/-!
# Calls of the logging functions

A program sets up sessions, ends them and makes records, in any order, and goes on if a setup fails. A setup
comes to one of five ends; whichever it is, the session before it is closed, and there is a handler again only
if the session's file is open.

* `Arranged`, `arranged`: how far a setup comes, and what it has changed by then;
* `log_keeps`: what every handler keeps, a record keeps;
* `logging_after_cases`: what calls leave of the state of logging is what the last setup or shutdown left;
* `logging_of_setup`: a setup either fails and leaves no handler, or its session is on;
* `handlers_of_not_on`: while no session is on there is no handler.
-/

namespace ViewModel.Log

open Files
open Command (ran ran_bind_ok ran_bind_error ran_changeFiles ran_changeFiles_ok ran_threshold ran_setup inSession
  sessionRecords relinked_pointLatest getLast?_child fileName_ne openFile_eq_ok_iff)

/-- What a setup is asked for. -/
structure Request where
  start : Start
  environment : Table String
  level : Option String
  directory : Option Path
  onTerminal : Bool

namespace Request

def setup (request : Request) : WorkAction SetupError Path :=
  Log.setup request.start request.environment request.level request.directory request.onTerminal

/-- The directory of the session's file. -/
def given (request : Request) : Except SetupError Path :=
  match request.directory with
  | some directory => .ok directory
  | none => Log.directory request.environment

def word (request : Request) : String := levelWord request.environment request.level

def file (request : Request) (directory : Path) : Path := directory.child (fileName request.start)

def opening (request : Request) (path : Path) : List Record :=
  sessionRecords request.start request.environment request.level path

end Request

/-- A call of one of the logging functions. -/
inductive Call
  | setup (request : Request)
  | shutdown
  | log (level : Level) (name message : String)

namespace Call

def logs : Call → Bool
  | log _ _ _ => true
  | _ => false

def action : Call → WorkAction SetupError Unit
  | setup request => discard request.setup
  | shutdown => changeLogging Logging.shutdown
  | log level name message => modify fun workplace => workplace.log ⟨level, loggerName name, message⟩

end Call

/-- The workplace after some calls, of which setups may have failed. -/
def after (calls : List Call) (workplace : Workplace) : Workplace :=
  calls.foldl (fun workplace call => (ran call.action workplace).2) workplace

variable {calls : List Call} {request : Request} {workplace : Workplace} {files later : FileSystem}
  {place : Location} {name : String}

@[simp] theorem after_nil (workplace : Workplace) : after [] workplace = workplace := rfl

theorem after_cons (call : Call) (rest : List Call) (workplace : Workplace) :
    after (call :: rest) workplace = after rest (ran call.action workplace).2 := rfl

theorem after_append (calls rest : List Call) (workplace : Workplace) :
    after (calls ++ rest) workplace = after rest (after calls workplace) := List.foldl_append

@[simp] theorem after_log (level : Level) (name message : String) (rest : List Call) (workplace : Workplace) :
    after (.log level name message :: rest) workplace =
      after rest (workplace.log ⟨level, loggerName name, message⟩) := rfl

theorem after_setup (request : Request) (rest : List Call) (workplace : Workplace) :
    after (.setup request :: rest) workplace = after rest (ran request.setup workplace).2 := by
  rw [after_cons]
  change after rest (ran (request.setup >>= fun _ => pure ()) workplace).2 = _
  rw [Command.ran_bind]
  rcases ran request.setup workplace with ⟨_ | path, later⟩ <;> rfl

/-! ## How far a setup comes -/

/-- The state of logging when the session is named, but its level is not yet known. -/
def Logging.named (logging : Logging) (path : Path) (start : Start) : Logging :=
  { logging.close with file := some path, session := some start }

/-- The workplace with a new session, which has not recorded anything yet. -/
def Request.opened (request : Request) (directory : Path) (place : Location) (threshold : Nat)
    (files : FileSystem) (workplace : Workplace) : Workplace :=
  { workplace with
    files := pointLatest files directory (request.file directory).name
    logging := inSession request.start (request.file directory) place threshold request.onTerminal }

/-- How a setup ends, and what it has changed by then. -/
inductive Arranged (request : Request) (workplace : Workplace) : Except SetupError Path × Workplace → Prop
  /-- No directory is told. -/
  | homeless {error : SetupError} (given : request.given = .error error) :
      Arranged request workplace (.error error, { workplace with logging := workplace.logging.close })
  /-- The directory cannot be made. -/
  | unmade {directory : Path} {error : Files.Error} {made : FileSystem} (given : request.given = .ok directory)
      (ensured : workplace.files.makeDirectories directory = (.error error, made)) :
      Arranged request workplace
        (.error (.files error), { workplace with files := made, logging := workplace.logging.close })
  /-- The level is refused. -/
  | unleveled {directory : Path} {error : SetupError} {made : FileSystem} (given : request.given = .ok directory)
      (ensured : workplace.files.makeDirectories directory = (.ok (), made))
      (refused : Log.threshold request.word = .error error) :
      Arranged request workplace (.error error, { workplace with
        files := made, logging := workplace.logging.named (request.file directory) request.start })
  /-- The file cannot be opened. -/
  | unopened {directory : Path} {error : Files.Error} {made : FileSystem} {threshold : Nat}
      (given : request.given = .ok directory)
      (ensured : workplace.files.makeDirectories directory = (.ok (), made))
      (known : Log.threshold request.word = .ok threshold)
      (denied : openFile made (request.file directory) = .error error) :
      Arranged request workplace (.error (.files error), { workplace with
        files := made
        logging := { workplace.logging.named (request.file directory) request.start with
          threshold, filters := [request.start.id] } })
  | opened {directory : Path} {made files : FileSystem} {threshold : Nat} {place : Location}
      (given : request.given = .ok directory)
      (ensured : workplace.files.makeDirectories directory = (.ok (), made))
      (known : Log.threshold request.word = .ok threshold)
      (accessible : openFile made (request.file directory) = .ok (place, files)) :
      Arranged request workplace (.ok (request.file directory),
        (request.opened directory place threshold files workplace).logAll
          (request.opening (request.file directory)))

theorem ran_changeFiles_error {α : Type} {change : FileSystem → Except Files.Error α × FileSystem}
    {error : Files.Error} {changed : FileSystem} (h : change workplace.files = (.error error, changed)) :
    ran (changeFiles change) workplace = (.error (.files error), { workplace with files := changed }) := by
  rw [ran_changeFiles, h]
  rfl

theorem ran_setup_of_homeless {error : SetupError} (given : request.given = .error error)
    (workplace : Workplace) :
    ran request.setup workplace = (.error error, { workplace with logging := workplace.logging.close }) := by
  unfold Request.given at given
  unfold Request.setup
  cases asked : request.directory with
  | some asked => simp [asked] at given
  | none =>
    simp only [asked] at given
    unfold Log.setup
    refine (ran_bind_ok rfl _).trans (ran_bind_error ?_ _)
    rw [given]
    rfl

section

variable {directory : Path} {made : FileSystem}

/-- A setup goes on as if it was asked for the directory that the environment tells. -/
theorem ran_setup_of_given (given : request.given = .ok directory) (workplace : Workplace) :
    ran request.setup workplace = ran (Log.setup request.start request.environment request.level (some directory)
      request.onTerminal) workplace := by
  unfold Request.given at given
  unfold Request.setup
  cases asked : request.directory with
  | some asked =>
    simp only [asked, Except.ok.injEq] at given
    rw [given]
  | none =>
    simp only [asked] at given
    unfold Log.setup
    rw [given]
    rfl

theorem ran_setup_of_unmade (given : request.given = .ok directory) {error : Files.Error}
    (ensured : workplace.files.makeDirectories directory = (.error error, made)) :
    ran request.setup workplace =
      (.error (.files error), { workplace with files := made, logging := workplace.logging.close }) := by
  rw [ran_setup_of_given given]
  unfold Log.setup
  refine (ran_bind_ok rfl _).trans ((ran_bind_ok rfl _).trans (ran_bind_error ?_ _))
  exact ran_changeFiles_error ensured

variable (given : request.given = .ok directory)
  (ensured : workplace.files.makeDirectories directory = (.ok (), made))
include given ensured

theorem ran_setup_of_refused {error : SetupError} (refused : Log.threshold request.word = .error error) :
    ran request.setup workplace = (.error error, { workplace with
      files := made, logging := workplace.logging.named (request.file directory) request.start }) := by
  rw [ran_setup_of_given given]
  unfold Log.setup
  refine (ran_bind_ok rfl _).trans ((ran_bind_ok rfl _).trans ?_)
  refine (ran_bind_ok (ran_changeFiles_ok ensured) _).trans ((ran_bind_ok rfl _).trans ?_)
  refine ran_bind_error ?_ _
  change ran (liftM (Log.threshold request.word) : WorkAction SetupError Nat) _ = _
  rw [refused]
  rfl

variable {threshold : Nat} (known : Log.threshold request.word = .ok threshold)
include known

theorem ran_setup_of_denied {error : Files.Error} (denied : openFile made (request.file directory) = .error error) :
    ran request.setup workplace = (.error (.files error), { workplace with
      files := made
      logging := { workplace.logging.named (request.file directory) request.start with
        threshold, filters := [request.start.id] } }) := by
  rw [ran_setup_of_given given]
  unfold Log.setup
  refine (ran_bind_ok rfl _).trans ((ran_bind_ok rfl _).trans ?_)
  refine (ran_bind_ok (ran_changeFiles_ok ensured) _).trans ((ran_bind_ok rfl _).trans ?_)
  refine (ran_bind_ok (ran_threshold known _) _).trans ((ran_bind_ok rfl _).trans ?_)
  refine ran_bind_error (ran_changeFiles_error (?_ : _ = (Except.error error, made))) _
  have refused : openFile made (directory.child (fileName request.start)) = .error error := denied
  simp only [refused]

theorem ran_setup_of_accessible {files : FileSystem}
    (accessible : openFile made (request.file directory) = .ok (place, files)) :
    ran request.setup workplace = (.ok (request.file directory),
      (request.opened directory place threshold files workplace).logAll
        (request.opening (request.file directory))) := by
  rw [ran_setup_of_given given]
  exact ran_setup ensured known accessible

end

theorem arranged (request : Request) (workplace : Workplace) :
    Arranged request workplace (ran request.setup workplace) := by
  cases given : request.given with
  | error error =>
    rw [ran_setup_of_homeless given]
    exact .homeless given
  | ok directory =>
    rcases ensured : workplace.files.makeDirectories directory with ⟨error | _, made⟩
    · rw [ran_setup_of_unmade given ensured]
      exact .unmade given ensured
    · cases known : Log.threshold request.word with
      | error error =>
        rw [ran_setup_of_refused given ensured known]
        exact .unleveled given ensured known
      | ok threshold =>
        cases accessible : openFile made (request.file directory) with
        | error error =>
          rw [ran_setup_of_denied given ensured known accessible]
          exact .unopened given ensured known accessible
        | ok opened =>
          rw [ran_setup_of_accessible given ensured known accessible]
          exact .opened given ensured known accessible

/-- The path that a setup tells, and the files once its directory is made. -/
def Request.Makes (request : Request) (workplace : Workplace) (path : Path) (made : FileSystem) : Prop :=
  ∃ directory, request.given = .ok directory ∧ workplace.files.makeDirectories directory = (.ok (), made) ∧
    path = request.file directory

/-- The file that a setup opens for its session is where the absolute path leads. -/
def Request.Opens (request : Request) (workplace : Workplace) (path : Path) (place : Location) : Prop :=
  ∃ made, request.Makes workplace path made ∧ made.locate (path.absolute made.here) = .ok place

/-! ## Where the state of logging comes from -/

/-- What the passing of a moment brings about, and every handler keeps, is so after a record. -/
theorem log_keeps {P : Workplace → Prop} {workplace : Workplace} (record : Record) (ticked : P workplace.tick)
    (emits : ∀ handler ∈ workplace.logging.handlers, ∀ later, P later →
      P (handler.emit later (workplace.moments 0) record)) : P (workplace.log record) := by
  unfold Workplace.log
  split
  · exact List.foldlRecOn workplace.logging.handlers _ ticked fun later kept handler mem =>
      emits handler mem later kept
  · exact ticked

/-- A handler changes what is in files or what is shown, and no obstacle. -/
theorem exists_of_emit (workplace : Workplace) (moment : Moment) (record : Record) (handler : Handler) :
    ∃ files shown, files.obstacles = workplace.files.obstacles ∧
      handler.emit workplace moment record = { workplace with files, shown } := by
  unfold Handler.emit
  split
  · dsimp only
    split
    · refine ⟨_, _, ?_, rfl⟩
      unfold FileSystem.append
      split <;> rfl
    · exact ⟨_, _, rfl, rfl⟩
  · exact ⟨_, _, rfl, rfl⟩

/-- A record changes what is in files and what is shown only, and takes a moment. -/
theorem exists_of_log (workplace : Workplace) (record : Record) :
    ∃ files shown, files.obstacles = workplace.files.obstacles ∧
      workplace.log record = { workplace.tick with files, shown } := by
  refine log_keeps (P := fun later => ∃ files shown, files.obstacles = workplace.files.obstacles ∧
    later = { workplace.tick with files, shown }) record ⟨_, _, rfl, rfl⟩ ?_
  rintro handler - later ⟨files, shown, same, rfl⟩
  obtain ⟨files', shown', same', emitted⟩ := exists_of_emit _ (workplace.moments 0) record handler
  exact ⟨files', shown', same'.trans same, emitted⟩

@[simp] theorem logging_log (workplace : Workplace) (record : Record) :
    (workplace.log record).logging = workplace.logging := by
  obtain ⟨files, shown, -, logged⟩ := exists_of_log workplace record
  rw [logged]
  rfl

/-- Every record takes one moment, whether it gets anywhere or not. -/
theorem moments_log (workplace : Workplace) (record : Record) :
    (workplace.log record).moments = workplace.tick.moments := by
  obtain ⟨files, shown, -, logged⟩ := exists_of_log workplace record
  rw [logged]

@[simp] theorem logging_logAll (workplace : Workplace) (records : List Record) :
    (workplace.logAll records).logging = workplace.logging := by
  induction records generalizing workplace with
  | nil => rfl
  | cons record rest ih =>
    change (Workplace.logAll (workplace.log record) rest).logging = _
    simp [ih]

theorem obstacles_logAll (workplace : Workplace) (records : List Record) :
    (workplace.logAll records).files.obstacles = workplace.files.obstacles := by
  induction records generalizing workplace with
  | nil => rfl
  | cons record rest ih =>
    obtain ⟨files, shown, same, logged⟩ := exists_of_log workplace record
    refine (ih (workplace.log record)).trans ?_
    rw [logged]
    exact same

/-- Records change nothing of the state of logging. -/
theorem logging_after_of_logs (logs : ∀ call ∈ calls, call.logs = true) (workplace : Workplace) :
    (after calls workplace).logging = workplace.logging := by
  induction calls generalizing workplace with
  | nil => rfl
  | cons call rest ih =>
    obtain ⟨here, there⟩ := List.forall_mem_cons.1 logs
    cases call with
    | setup request => cases here
    | shutdown => cases here
    | log level name message => simp [ih there]

/-- Calls only make records, or end in some that do after one that does not. -/
theorem exists_turn (calls : List Call) :
    (∀ call ∈ calls, call.logs = true) ∨ ∃ before turn logs, calls = before ++ turn :: logs ∧
      turn.logs = false ∧ ∀ call ∈ logs, call.logs = true := by
  induction calls with
  | nil => simp
  | cons call rest ih =>
    rcases ih with all | ⟨before, turn, logs, rfl, turns, all⟩
    · cases logs : call.logs with
      | false => exact .inr ⟨[], call, rest, rfl, logs, all⟩
      | true => exact .inl (List.forall_mem_cons.2 ⟨logs, all⟩)
    · exact .inr ⟨call :: before, turn, logs, rfl, turns, all⟩

/-- Records made after a call leave the state of logging as the call left it. -/
theorem logging_after_turn (before : List Call) (turn : Call) {logs : List Call}
    (all : ∀ call ∈ logs, call.logs = true) (workplace : Workplace) :
    (after (before ++ turn :: logs) workplace).logging = (after [turn] (after before workplace)).logging := by
  simp [after_append, after_cons, logging_after_of_logs all]

/-- The state of logging is the initial one, or what a setup left that only records follow. -/
theorem logging_after_cases (initial : workplace.logging = {}) (calls : List Call) :
    (after calls workplace).logging = {} ∨
      ∃ before request logs, calls = before ++ .setup request :: logs ∧ (∀ call ∈ logs, call.logs = true) ∧
        (after calls workplace).logging = (ran request.setup (after before workplace)).2.logging := by
  rcases exists_turn calls with all | ⟨before, turn, logs, rfl, turns, all⟩
  · exact .inl ((logging_after_of_logs all workplace).trans initial)
  · have last := logging_after_turn before turn all workplace
    cases turn with
    | setup request =>
      rw [after_setup, after_nil] at last
      exact .inr ⟨before, request, logs, rfl, all, last⟩
    | shutdown => exact .inl last
    | log => cases turns

/-- A setup that fails leaves no handler; one that succeeds has opened its session's file, and is on. -/
theorem logging_of_setup (request : Request) (workplace : Workplace) :
    ((∃ error, (ran request.setup workplace).1 = .error error) ∧
      (ran request.setup workplace).2.logging.handlers = [] ∧
      (ran request.setup workplace).2.logging.filters.length ≤ 1) ∨
    ∃ path place threshold, (ran request.setup workplace).1 = .ok path ∧ request.Opens workplace path place ∧
      Log.threshold request.word = .ok threshold ∧
      (ran request.setup workplace).2.logging =
        inSession request.start path place threshold request.onTerminal := by
  have how := arranged request workplace
  generalize ran request.setup workplace = ended at how ⊢
  cases how with
  | homeless given => exact .inl ⟨⟨_, rfl⟩, rfl, Nat.zero_le 1⟩
  | unmade given ensured => exact .inl ⟨⟨_, rfl⟩, rfl, Nat.zero_le 1⟩
  | unleveled given ensured refused => exact .inl ⟨⟨_, rfl⟩, rfl, Nat.zero_le 1⟩
  | unopened given ensured known denied => exact .inl ⟨⟨_, rfl⟩, rfl, Nat.le_refl 1⟩
  | opened given ensured known accessible =>
    refine .inr ⟨_, _, _, rfl, ⟨_, ⟨_, given, ensured, rfl⟩, (openFile_eq_ok_iff.1 accessible).1⟩, known, ?_⟩
    exact logging_logAll _ _

/-- The only file that a session's records go to is its own. -/
theorem eq_of_sink_inSession {start : Start} {path : Path} {threshold : Nat} {onTerminal : Bool}
    {handler : Handler} (mem : handler ∈ (inSession start path place threshold onTerminal).handlers)
    {other : Location} (sink : handler.sink = .file other) : other = place := by
  obtain ⟨target, within, rfl⟩ := List.mem_map.1 mem
  dsimp only at sink
  subst sink
  rcases List.mem_cons.1 within with same | within
  · exact Sink.file.inj same
  · split at within <;> simp at within

/-- A session is on after the calls: they end in its setup, which succeeds, and in records. -/
def IsOn (calls : List Call) (workplace : Workplace) : Prop :=
  ∃ before request logs path, calls = before ++ .setup request :: logs ∧ (∀ call ∈ logs, call.logs = true) ∧
    (ran request.setup (after before workplace)).1 = .ok path

/-- While no session is on there is no handler. -/
theorem handlers_of_not_on (initial : workplace.logging = {}) (off : ¬ IsOn calls workplace) :
    (after calls workplace).logging.handlers = [] := by
  rcases logging_after_cases initial calls with left | ⟨before, request, logs, rfl, all, left⟩
  · rw [left]
  · rw [left]
    rcases logging_of_setup request (after before workplace) with ⟨-, none, -⟩ | ⟨path, -, -, ended, -⟩
    · exact none
    · exact absurd ⟨before, request, logs, path, rfl, all, ended⟩ off

end ViewModel.Log
