import ViewModel.Proofs.Log.Calls

/-!
# Sessions keep to themselves

Every session has a file of its own. It gets the records that are made while the session is on and that
reach its level, in their order and marked with its identifier, and nothing else ever gets there: no record
of another session, and none that is made while no session is on.

* `Spared`: the files of a name stay, while directories may be added;
* `spared_after`: calls spare the files of a name that none of their sessions has;
* `kept_after`: from the setup on the file of a session gets its records, until the session is over;
* `sessions_isolated`: every run keeps its sessions apart.
-/

namespace ViewModel.Log

open Files
open Command (ran inSession relinked_pointLatest getLast?_child fileName_ne openFile_eq_ok_iff)

variable {calls rest : List Call} {request : Request} {workplace : Workplace} {files later last : FileSystem}
  {place : Location} {name : String} {start : Start} {path : Path} {threshold : Nat} {onTerminal : Bool}

/-! ## What is to be in the files -/

/-- The line of a record in the file of a session. -/
def markedLine (start : Start) (moment : Moment) (record : Record) : String :=
  " | ".intercalate [moment.time, column record.level.name, start.id,
    record.logger ++ ":" ++ toString moment.line, record.message] ++ "\n"

/-- Whether a record reaches a threshold. Where there is none it has to be a warning. -/
def reaches (threshold : Nat) (record : Record) : Bool :=
  (if threshold = 0 then defaultThreshold else threshold) ≤ record.level.rank

/-- What a record adds to the file of a session. -/
def addition (start : Start) (threshold : Nat) (moment : Moment) (record : Record) : List UInt8 :=
  if reaches threshold record then Text.Utf8.encode (markedLine start moment record) else []

/-- What records add to the file of a session that are made at some moments, one after the other. -/
def written (start : Start) (threshold : Nat) (moments : Nat → Moment) : List Record → List UInt8
  | [] => []
  | record :: rest =>
    addition start threshold (moments 0) record ++ written start threshold (fun n => moments (n + 1)) rest

theorem written_append (start : Start) (threshold : Nat) (moments : Nat → Moment) (records others : List Record) :
    written start threshold moments (records ++ others) =
      written start threshold moments records ++
        written start threshold (fun n => moments (n + records.length)) others := by
  induction records generalizing moments with
  | nil => rfl
  | cons record rest ih => simp [written, ih, Nat.add_assoc]

/-- The records that are made until the next setup or shutdown. -/
def recorded : List Call → List Record
  | .log level name message :: rest => ⟨level, loggerName name, message⟩ :: recorded rest
  | _ => []

/-- What a file holds; nothing if there is no file. -/
def content (files : FileSystem) (place : Location) : List UInt8 :=
  match files.lookup? place with
  | some (.file content) => content
  | _ => []

/-- What the setups among some calls are asked for. -/
def requests : List Call → List Request
  | [] => []
  | .setup request :: rest => request :: requests rest
  | _ :: rest => requests rest

def names (calls : List Call) : List String := (requests calls).map fun request => fileName request.start

/-! ## What stays -/

/-- Nothing of that name is changed; a directory may be new. -/
def Spared (name : String) (files later : FileSystem) : Prop :=
  ∀ above, later.lookup? (above ++ [name]) = files.lookup? (above ++ [name]) ∨
    files.lookup? (above ++ [name]) = none ∧ later.lookup? (above ++ [name]) = some .directory

def Unlinked (name : String) (files : FileSystem) : Prop :=
  ∀ above target, files.lookup? (above ++ [name]) ≠ some (.link target)

namespace Spared

theorem refl (name : String) (files : FileSystem) : Spared name files files := fun _ => .inl rfl

theorem of_eq (h : ∀ above, later.lookup? (above ++ [name]) = files.lookup? (above ++ [name])) :
    Spared name files later := fun above => .inl (h above)

theorem of_adds (adds : FileSystem.Adds files later) : Spared name files later := fun _ => adds.held _

theorem trans (first : Spared name files later) (second : Spared name later last) : Spared name files last := by
  intro above
  rcases first above with same | ⟨free, new⟩
  · rw [← same]
    exact second above
  · rcases second above with same | ⟨free', -⟩
    · exact .inr ⟨free, same.trans new⟩
    · simp [new] at free'

theorem unlinked (spared : Spared name files later) (unlinked : Unlinked name files) : Unlinked name later := by
  intro above target link
  rcases spared above with same | ⟨-, new⟩
  · exact unlinked above target (same ▸ link)
  · simp [new] at link

theorem content_eq (spared : Spared name files later) (above : Location) :
    content later (above ++ [name]) = content files (above ++ [name]) := by
  unfold content
  rcases spared above with same | ⟨free, new⟩
  · rw [same]
  · simp [free, new]

theorem lookup? (spared : Spared name files later) {above : Location} {entry : Entry}
    (held : files.lookup? (above ++ [name]) = some entry) : later.lookup? (above ++ [name]) = some entry := by
  rcases spared above with same | ⟨free, -⟩
  · rw [same, held]
  · simp [held] at free

end Spared

theorem lookup?_append_of_ne {other : Location} (apart : other ≠ place) (content : List UInt8) :
    (files.append place content).lookup? other = files.lookup? other := by
  have held (entry : Entry) : (files.put place entry).lookup? other = files.lookup? other := by
    by_cases top : place = []
    · subst top
      cases other with
      | nil => exact absurd rfl apart
      | cons first below =>
        change List.lookup (first :: below) (files.entries.filter (·.1 != [])) = _
        rw [FileSystem.lookup_filter_ne, if_neg apart]
        rfl
    · rw [FileSystem.lookup?_put files entry other top, if_neg apart]
  unfold FileSystem.append
  split <;> exact held _

theorem lookup?_emit_of_apart {handler : Handler} (apart : handler.sink ≠ .file place) (workplace : Workplace)
    (moment : Moment) (record : Record) :
    (handler.emit workplace moment record).files.lookup? place = workplace.files.lookup? place := by
  unfold Handler.emit
  split
  · dsimp only
    split
    · rename_i reached sink
      exact lookup?_append_of_ne (fun same => apart (sink.trans (congrArg Sink.file same.symm))) _
    · rfl
  · rfl

/-- A record goes to no other places than those of the handlers. -/
theorem lookup?_log_of_apart (apart : ∀ handler ∈ workplace.logging.handlers, handler.sink ≠ .file place)
    (record : Record) : (workplace.log record).files.lookup? place = workplace.files.lookup? place := by
  refine log_keeps (P := fun later => later.files.lookup? place = workplace.files.lookup? place) record rfl ?_
  intro handler mem later kept
  exact (lookup?_emit_of_apart (apart handler mem) later _ record).trans kept

/-- Records go to no file of that name. -/
def Free (name : String) (workplace : Workplace) : Prop :=
  ∀ handler ∈ workplace.logging.handlers, ∀ above, handler.sink ≠ .file (above ++ [name])

theorem spared_log (free : Free name workplace) (record : Record) :
    Spared name workplace.files (workplace.log record).files :=
  .of_eq fun above => lookup?_log_of_apart (fun handler mem => free handler mem above) record

theorem spared_logAll (free : Free name workplace) (records : List Record) :
    Spared name workplace.files (workplace.logAll records).files := by
  induction records generalizing workplace with
  | nil => exact .refl _ _
  | cons record rest ih =>
    refine (spared_log free record).trans (ih ?_)
    unfold Free
    rwa [logging_log]

/-- A session's file stands under its own name, and opening it changes nothing else. -/
theorem opened_of_openFile {directory : Path} (unlinked : Unlinked (fileName start) files)
    (h : openFile files (directory.child (fileName start)) = .ok (place, later)) :
    ∃ above, place = above ++ [fileName start] ∧ later.lookup? place = some (.file (content files place)) ∧
      ∀ other, other ≠ place → later.lookup? other = files.lookup? other := by
  obtain ⟨located, solid, -, rfl⟩ := openFile_eq_ok_iff.1 h
  have named := (fileName_ne start).2
  obtain ⟨above, rfl⟩ := FileSystem.place_of_locate
    (Path.getLast?_absolute (getLast?_child directory (fileName start)) named.2 files.here) named unlinked located
  refine ⟨above, rfl, ?_⟩
  unfold content
  cases held : files.lookup? (above ++ [fileName start]) with
  | none =>
    have put (other : Location) := FileSystem.lookup?_put files (.file []) other
      (List.concat_ne_nil (fileName start) above)
    exact ⟨(put _).trans (if_pos rfl), fun other apart => (put other).trans (if_neg apart)⟩
  | some entry =>
    cases entry with
    | directory => exact absurd held solid
    | link target => exact absurd held (unlinked above target)
    | file content => exact ⟨held, fun _ _ => rfl⟩

theorem free_inSession {above : Location} (other : name ≠ fileName start)
    (on : workplace.logging = inSession start path (above ++ [fileName start]) threshold onTerminal) :
    Free name workplace := by
  intro handler mem above' sink
  rw [on] at mem
  have ends := List.append_inj' (eq_of_sink_inSession mem sink) rfl
  exact other (List.singleton_inj.1 ends.2)

section

variable {directory : Path} {made : FileSystem}

/-- The file of a new session is there, and no other name is touched but that which leads to the latest. -/
theorem exists_of_opened (unlinked : Unlinked (fileName request.start) workplace.files)
    (ensured : workplace.files.makeDirectories directory = (.ok (), made))
    (accessible : openFile made (request.file directory) = .ok (place, files)) (threshold : Nat) :
    ∃ above, place = above ++ [fileName request.start] ∧
      (request.opened directory place threshold files workplace).files.lookup? place =
        some (.file (content workplace.files place)) ∧
      ∀ name, name ≠ fileName request.start → name ≠ latestName → Spared name workplace.files
        (request.opened directory place threshold files workplace).files := by
  have making (name : String) : Spared name workplace.files made := .of_adds (DataSet.adds_of_made ensured)
  obtain ⟨above, rfl, held, others⟩ := opened_of_openFile ((making _).unlinked unlinked) accessible
  have relinked := relinked_pointLatest files directory (request.file directory).name
  refine ⟨above, rfl, ?_, ?_⟩
  · rw [← (making _).content_eq above]
    exact (relinked.lookup? (fileName_ne request.start).1).trans held
  · intro name other apart
    refine (making name).trans (.of_eq fun above' => (relinked.lookup? apart).trans (others _ ?_))
    intro same
    exact other (List.singleton_inj.1 (List.append_inj' same rfl).2)

end

/-- A setup spares all names but that of its session and the one that leads to the latest, and leaves no
handler that writes to a file of another name. -/
theorem spared_setup (unlinked : Unlinked (fileName request.start) workplace.files)
    (other : name ≠ fileName request.start) (apart : name ≠ latestName) :
    Spared name workplace.files (ran request.setup workplace).2.files ∧
      Free name (ran request.setup workplace).2 := by
  have how := arranged request workplace
  generalize ran request.setup workplace = ended at how ⊢
  cases how with
  | homeless given => exact ⟨.refl _ _, by simp [Free]⟩
  | unmade given ensured => exact ⟨.of_adds (DataSet.adds_of_made ensured), by simp [Free]⟩
  | unleveled given ensured refused =>
    exact ⟨.of_adds (DataSet.adds_of_made ensured), by simp [Free, Logging.named]⟩
  | unopened given ensured known denied =>
    exact ⟨.of_adds (DataSet.adds_of_made ensured), by simp [Free, Logging.named]⟩
  | @opened directory made files threshold place given ensured known accessible =>
    obtain ⟨above, rfl, -, spared⟩ := exists_of_opened unlinked ensured accessible threshold
    have free : Free name (request.opened directory (above ++ [fileName request.start]) threshold files workplace) :=
      free_inSession other rfl
    refine ⟨(spared name other apart).trans (spared_logAll free _), ?_⟩
    unfold Free
    rwa [logging_logAll]

/-- What is to hold before calls, so that their sessions can have files of their own: these have different
names, which no link has, and no records go there yet. -/
structure Ready (calls : List Call) (workplace : Workplace) : Prop where
  distinct : (names calls).Nodup
  unlinked : ∀ name ∈ names calls, Unlinked name workplace.files
  free : ∀ name ∈ names calls, Free name workplace

theorem ne_latestName_of_mem_names (mem : name ∈ names calls) : name ≠ latestName := by
  obtain ⟨request, -, rfl⟩ := List.mem_map.1 mem
  exact (fileName_ne request.start).1

namespace Ready

/-- A setup leaves the later sessions ready, and spares every name that is not its own. -/
theorem setup (ready : Ready (.setup request :: rest) workplace) :
    Ready rest (ran request.setup workplace).2 := by
  obtain ⟨other, distinct⟩ := List.nodup_cons.1 ready.distinct
  have unlinked := ready.unlinked _ List.mem_cons_self
  have each {name : String} (mem : name ∈ names rest) :
      Spared name workplace.files (ran request.setup workplace).2.files ∧
        Free name (ran request.setup workplace).2 :=
    spared_setup unlinked (ne_of_mem_of_not_mem mem other) (ne_latestName_of_mem_names mem)
  refine ⟨distinct, ?_, fun name mem => (each mem).2⟩
  exact fun name mem => (each mem).1.unlinked (ready.unlinked name (List.mem_cons_of_mem _ mem))

theorem shutdown (ready : Ready (.shutdown :: rest) workplace) :
    Ready rest { workplace with logging := workplace.logging.shutdown } :=
  ⟨ready.distinct, ready.unlinked, fun _ _ _ mem => by simp [Logging.shutdown] at mem⟩

theorem log {level : Level} {message : String} (ready : Ready (.log level name message :: rest) workplace)
    (record : Record) : Ready rest (workplace.log record) := by
  refine ⟨ready.distinct, ?_, ?_⟩
  · exact fun name mem => (spared_log (ready.free name mem) record).unlinked (ready.unlinked name mem)
  · intro name mem
    have free := ready.free name mem
    unfold Free at free ⊢
    rwa [logging_log]

end Ready

/-- Calls spare the files of a name that is not that of one of their sessions. -/
theorem spared_after (ready : Ready calls workplace) (other : name ∉ names calls) (apart : name ≠ latestName)
    (free : Free name workplace) : Spared name workplace.files (after calls workplace).files := by
  induction calls generalizing workplace with
  | nil => exact .refl _ _
  | cons call rest ih =>
    cases call with
    | setup request =>
      obtain ⟨here, there⟩ := List.ne_and_not_mem_of_not_mem_cons other
      obtain ⟨spared, free⟩ := spared_setup (ready.unlinked _ List.mem_cons_self) here apart
      rw [after_setup]
      exact spared.trans (ih ready.setup there free)
    | shutdown => exact ih ready.shutdown other fun _ mem => absurd mem List.not_mem_nil
    | log level logger message =>
      refine (spared_log free _).trans (ih (ready.log _) other ?_)
      unfold Free
      rwa [logging_log]

/-! ## What a session's file gets -/

/-- In a session every record is marked with its identifier, whichever logger made it. -/
theorem line_inSession (start : Start) (path : Path) (place : Location) (threshold : Nat) (onTerminal : Bool)
    (moment : Moment) (record : Record) :
    (inSession start path place threshold onTerminal).line (.file place) moment record ++ "\n" =
      markedLine start moment record := by
  have marked : (inSession start path place threshold onTerminal).mark record = start.id := by
    unfold Logging.mark
    by_cases own : record.logger = packageLogger <;> simp [own, inSession]
  unfold Logging.line markedLine
  rw [marked]
  rfl

theorem counts_inSession (start : Start) (path : Path) (place : Location) (threshold : Nat) (onTerminal : Bool)
    (record : Record) :
    (inSession start path place threshold onTerminal).counts record.level = reaches threshold record := rfl

theorem le_rank_of_reaches {record : Record} (h : reaches threshold record = true) :
    threshold ≤ record.level.rank := by
  unfold reaches at h
  split at h <;> simp_all

/-- The session's file gets the record, if that reaches the level. -/
theorem lookup?_log_inSession (on : workplace.logging = inSession start path place threshold onTerminal)
    {old : List UInt8} (held : workplace.files.lookup? place = some (.file old)) (record : Record) :
    (workplace.log record).files.lookup? place =
      some (.file (old ++ addition start threshold (workplace.moments 0) record)) := by
  have solid : workplace.files.lookup? place ≠ some .directory := by simp [held]
  have inside := FileSystem.ne_nil_of_lookup? solid
  unfold Workplace.log addition
  rw [on, counts_inSession]
  cases reached : reaches threshold record with
  | false => simpa using held
  | true =>
    have passes := le_rank_of_reaches reached
    generalize workplace.moments 0 = moment
    have line := line_inSession start path place threshold onTerminal moment record
    rw [← on] at line
    have first : Handler.emit workplace.tick moment record ⟨.file place, threshold⟩ = { workplace.tick with
        files := workplace.files.append place (Text.Utf8.encode (markedLine start moment record)) } := by
      simp [Handler.emit, Workplace.tick, passes, line]
    have grown : (workplace.files.append place (Text.Utf8.encode (markedLine start moment record))).lookup? place =
        some (.file (old ++ Text.Utf8.encode (markedLine start moment record))) := by
      simp [FileSystem.append, held, FileSystem.lookup?_put _ _ _ inside]
    cases onTerminal with
    | false => simpa [inSession, first] using grown
    | true => simpa [inSession, first, line, Handler.emit, passes] using grown

theorem moments_logAll (workplace : Workplace) (records : List Record) :
    (workplace.logAll records).moments = fun n => workplace.moments (n + records.length) := by
  induction records generalizing workplace with
  | nil => rfl
  | cons record rest ih =>
    refine (ih (workplace.log record)).trans ?_
    rw [moments_log]
    exact funext fun n => congrArg workplace.moments (Nat.add_assoc n rest.length 1)

theorem lookup?_logAll_inSession (on : workplace.logging = inSession start path place threshold onTerminal)
    {old : List UInt8} (held : workplace.files.lookup? place = some (.file old)) (records : List Record) :
    (workplace.logAll records).files.lookup? place =
      some (.file (old ++ written start threshold workplace.moments records)) := by
  induction records generalizing workplace old with
  | nil => simpa [Workplace.logAll, written] using held
  | cons record rest ih =>
    have on' : (workplace.log record).logging = _ := (logging_log workplace record).trans on
    refine (ih on' (lookup?_log_inSession on held record)).trans ?_
    rw [List.append_assoc, moments_log]
    rfl

/-- What a setup or a shutdown leaves does not depend on handlers, as it closes them first. -/
theorem after_of_closed {turn : Call} (turns : turn.logs = false) (rest : List Call) (workplace : Workplace) :
    after (turn :: rest) { workplace with logging := workplace.logging.close } = after (turn :: rest) workplace := by
  cases turn with
  | setup request => rfl
  | shutdown => rfl
  | log => cases turns

/-- The file of a session gets the records that are made until the session is over, and stays then. -/
theorem kept_after {above : Location} (ready : Ready calls workplace) (own : fileName start ∉ names calls)
    (on : workplace.logging = inSession start path (above ++ [fileName start]) threshold onTerminal)
    {old : List UInt8} (held : workplace.files.lookup? (above ++ [fileName start]) = some (.file old)) :
    (after calls workplace).files.lookup? (above ++ [fileName start]) =
      some (.file (old ++ written start threshold workplace.moments (recorded calls))) := by
  induction calls generalizing workplace old with
  | nil => simpa [recorded, written] using held
  | cons call rest ih =>
    have closed (turns : call.logs = false) :
        (after (call :: rest) workplace).files.lookup? (above ++ [fileName start]) = some (.file old) := by
      have ready' : Ready (call :: rest) { workplace with logging := workplace.logging.close } :=
        ⟨ready.distinct, ready.unlinked, fun _ _ _ mem => absurd mem List.not_mem_nil⟩
      rw [← after_of_closed turns]
      exact (spared_after ready' own (fileName_ne start).1 fun _ mem => absurd mem List.not_mem_nil).lookup? held
    cases call with
    | setup request => simpa [recorded, written] using closed rfl
    | shutdown => simpa [recorded, written] using closed rfl
    | log level name message =>
      have on' : (workplace.log ⟨level, loggerName name, message⟩).logging = _ := (logging_log _ _).trans on
      refine (ih (ready.log _) own on' (lookup?_log_inSession on held _)).trans ?_
      rw [List.append_assoc, moments_log]
      rfl

/-! ## Whole runs -/

/-- How long the identifier of a session is. -/
def idLength : Nat := 6

/-- The sessions that are asked for can be told apart: their identifiers are genuine and all different, and no
link has the name of one of their files. -/
structure Distinguished (calls : List Call) (files : FileSystem) : Prop where
  ids : ((requests calls).map fun request => request.start.id).Nodup
  genuine : ∀ request ∈ requests calls, request.start.id.length = idLength
  unlinked : ∀ request ∈ requests calls, Unlinked (fileName request.start) files

/-- The name of a file tells the identifier of the session. -/
theorem id_eq_of_fileName {other : Start} (lengths : start.id.length = other.id.length)
    (same : fileName start = fileName other) : start.id = other.id := by
  have chars := congrArg String.toList same
  simp only [fileName, String.toList_append] at chars
  have ends := List.append_inj' (List.append_cancel_right chars) (by rwa [String.length_toList, String.length_toList])
  exact String.toList_injective ends.2

theorem requests_append (calls rest : List Call) : requests (calls ++ rest) = requests calls ++ requests rest := by
  induction calls with
  | nil => rfl
  | cons call calls ih => cases call <;> simp [requests, ih]

theorem names_append (calls rest : List Call) : names (calls ++ rest) = names calls ++ names rest := by
  simp [names, requests_append]

theorem Distinguished.ready (told : Distinguished calls workplace.files) (initial : workplace.logging = {}) :
    Ready calls workplace := by
  refine ⟨?_, ?_, ?_⟩
  · refine List.pairwise_map.2 ((List.pairwise_map.1 told.ids).imp_of_mem ?_)
    intro request other mem mem' apart same
    exact apart (id_eq_of_fileName ((told.genuine _ mem).trans (told.genuine _ mem').symm) same)
  · intro name mem
    obtain ⟨request, asked, rfl⟩ := List.mem_map.1 mem
    exact told.unlinked request asked
  · intro name _ handler mem
    simp [initial] at mem

theorem Ready.before {before : List Call} (ready : Ready (before ++ rest) workplace) : Ready before workplace := by
  obtain ⟨distinct, unlinked, free⟩ := ready
  rw [names_append] at distinct unlinked free
  exact ⟨(List.nodup_append.1 distinct).1, fun name mem => unlinked name (List.mem_append_left _ mem),
    fun name mem => free name (List.mem_append_left _ mem)⟩

/-- What calls leave is ready for the calls that follow. -/
theorem Ready.after {before : List Call} (ready : Ready (before ++ rest) workplace) :
    Ready rest (after before workplace) := by
  induction before generalizing workplace with
  | nil => exact ready
  | cons call before ih =>
    cases call with
    | setup request =>
      rw [after_setup]
      exact ih ready.setup
    | shutdown => exact ih ready.shutdown
    | log level name message => exact ih (ready.log _)

/-- What keeps the sessions of a run apart. -/
structure Isolated (calls : List Call) (workplace : Workplace) : Prop where
  /-- No two sessions have files of one name. -/
  named : (names calls).Nodup
  /-- There is at most one handler and one filter at any time, if nothing is shown on the terminal. -/
  single : (∀ request ∈ requests calls, request.onTerminal = false) → ∀ before rest, calls = before ++ rest →
    (after before workplace).logging.handlers.length ≤ 1 ∧ (after before workplace).logging.filters.length ≤ 1
  /-- A session's file gets what the session records, and nothing else. -/
  kept : ∀ before request rest path, calls = before ++ .setup request :: rest →
    (ran request.setup (after before workplace)).1 = .ok path →
      ∃ threshold above, Log.threshold request.word = .ok threshold ∧
        request.Opens (after before workplace) path (above ++ [fileName request.start]) ∧
        (after calls workplace).files.lookup? (above ++ [fileName request.start]) =
          some (.file (content workplace.files (above ++ [fileName request.start]) ++
            written request.start threshold (after before workplace).moments
              (request.opening path ++ recorded rest)))
  /-- What is recorded outside of all sessions gets nowhere, and only takes a moment. -/
  outside : ∀ before level name message rest, calls = before ++ .log level name message :: rest →
    ¬ IsOn before workplace →
      after (before ++ [.log level name message]) workplace = (after before workplace).tick
  /-- When a session is over nothing is left of it. -/
  closed : ∀ before rest, calls = before ++ .shutdown :: rest →
    (after (before ++ [.shutdown]) workplace).logging = {}

/-- At any time there is one handler and one filter at most. -/
theorem length_handlers_le (initial : workplace.logging = {})
    (silent : ∀ request ∈ requests calls, request.onTerminal = false) :
    (after calls workplace).logging.handlers.length ≤ 1 ∧
      (after calls workplace).logging.filters.length ≤ 1 := by
  rcases logging_after_cases initial calls with left | ⟨before, request, logs, rfl, all, left⟩
  · simp [left]
  · have here : request.onTerminal = false := silent request (by simp [requests_append, requests])
    rw [left]
    rcases logging_of_setup request (after before workplace) with ⟨-, none, few⟩ | ⟨_, _, _, -, -, -, on⟩
    · exact ⟨by simp [none], few⟩
    · simp [on, inSession, here]

/-- What a session records is in its file when all calls are done. -/
theorem held_of_setup {before : List Call} (ready : Ready (before ++ .setup request :: rest) workplace)
    (ended : (ran request.setup (after before workplace)).1 = .ok path) :
    ∃ threshold above, Log.threshold request.word = .ok threshold ∧
      request.Opens (after before workplace) path (above ++ [fileName request.start]) ∧
      (after (before ++ .setup request :: rest) workplace).files.lookup? (above ++ [fileName request.start]) =
        some (.file (content workplace.files (above ++ [fileName request.start]) ++
          written request.start threshold (after before workplace).moments
            (request.opening path ++ recorded rest))) := by
  have ready' := ready.after
  have later : Ready rest (ran request.setup (after before workplace)).2 := ready'.setup
  have unlinked := ready'.unlinked _ List.mem_cons_self
  have distinct := ready.distinct
  rw [names_append] at distinct
  obtain ⟨-, tail, apart⟩ := List.nodup_append.1 distinct
  have earlier : fileName request.start ∉ names before := fun mem => apart _ mem _ List.mem_cons_self rfl
  have own : fileName request.start ∈ names (before ++ .setup request :: rest) := by
    rw [names_append]
    exact List.mem_append_right _ List.mem_cons_self
  have spared : Spared (fileName request.start) workplace.files (after before workplace).files :=
    spared_after ready.before earlier (fileName_ne request.start).1 (ready.free _ own)
  rw [after_append, after_setup]
  have how := arranged request (after before workplace)
  generalize ran request.setup (after before workplace) = result at how later ended ⊢
  cases how with
  | @opened directory made files threshold place given ensured known accessible =>
    cases ended
    obtain ⟨above, rfl, held, -⟩ := exists_of_opened unlinked ensured accessible threshold
    refine ⟨threshold, above, known, ⟨_, ⟨_, given, ensured, rfl⟩, (openFile_eq_ok_iff.1 accessible).1⟩, ?_⟩
    have begun := lookup?_logAll_inSession rfl held (request.opening (request.file directory))
    have lasting := kept_after later (List.nodup_cons.1 tail).1 (logging_logAll _ _) begun
    rw [moments_logAll] at lasting
    rw [written_append, ← List.append_assoc, ← spared.content_eq above]
    exact lasting
  | _ => cases ended

/-- A watch that keeps its warnings in the root directory. -/
def watch (id : String) : Request :=
  { start := ⟨id, "20240101_000000"⟩
    environment := .empty
    level := some "WARNING"
    directory := some ⟨"/", []⟩
    onTerminal := false }

/-- An empty root directory, where every second something is recorded. -/
def tower : Workplace := { files := {}, moments := fun n => ⟨"2024-01-01 00:00:0" ++ toString n, 40 + n⟩ }

def watches : List Call :=
  [.setup (watch "aaaaaa"), .log .info "plugins" "quiet", .log .warning "plugins" "late",
    .setup (watch "bbbbbb"), .log .error "noesisgen" "later", .shutdown, .log .error "plugins" "lost"]

theorem locate_watch : FileSystem.locate {} (((watch "aaaaaa").file ⟨"/", []⟩).absolute []) =
    .ok [fileName (watch "aaaaaa").start] := FileSystem.locate_of_straight rfl (by decide +kernel)

theorem threshold_watch : Log.threshold (watch "aaaaaa").word = .ok 30 := by decide +kernel

/-- The first watch is set up. -/
theorem ran_setup_watch :
    (ran (watch "aaaaaa").setup tower).1 = .ok ((watch "aaaaaa").file ⟨"/", []⟩) := by
  have accessible : openFile {} ((watch "aaaaaa").file ⟨"/", []⟩) =
      .ok ([fileName (watch "aaaaaa").start], FileSystem.put {} [fileName (watch "aaaaaa").start] (.file [])) :=
    openFile_eq_ok_iff.2 ⟨locate_watch, nofun, rfl, rfl⟩
  have given : (watch "aaaaaa").given = .ok ⟨"/", []⟩ := rfl
  rw [ran_setup_of_accessible given rfl threshold_watch accessible]

end ViewModel.Log
