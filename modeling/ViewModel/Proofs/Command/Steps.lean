import ViewModel.Command.Generate
import ViewModel.Proofs.DataSet.Batch

/-!
# Steps of a run

A run is made of steps. Most of them only log and show something, which changes no file but those that
records go to, and most of them end the run early by a fault or not at all.

* `ran_bind`: a later step runs only if the earlier one does not end the run;
* `Standing`: what is left of the files where modules were written and records go to free places;
* `Quiet`, `Yields`: the steps that keep what stands, and those that end a run by a fault only;
* `quiet_conclude`, `ran_conclude_ok`: the end of a run, and how it ends if no data set failed.
-/

namespace ViewModel.Command

open Files

variable {ε ε' α β : Type} {workplace later : Log.Workplace}

/-- How an action ends, and the workplace then. -/
def ran (action : Log.WorkAction ε α) (workplace : Log.Workplace) : Except ε α × Log.Workplace :=
  action.run.run workplace

theorem ran_bind (first : Log.WorkAction ε α) (next : α → Log.WorkAction ε β) (workplace : Log.Workplace) :
    ran (first >>= next) workplace =
      match ran first workplace with
      | (.ok value, later) => ran (next value) later
      | (.error error, later) => (.error error, later) := by
  unfold ran
  rw [ExceptT.run_bind, StateT.run_bind]
  rcases first.run.run workplace with ⟨result, later⟩
  cases result <;> rfl

theorem ran_bind_ok {first : Log.WorkAction ε α} {value : α} (h : ran first workplace = (.ok value, later))
    (next : α → Log.WorkAction ε β) : ran (first >>= next) workplace = ran (next value) later := by
  rw [ran_bind, h]

theorem ran_bind_error {first : Log.WorkAction ε α} {error : ε} (h : ran first workplace = (.error error, later))
    (next : α → Log.WorkAction ε β) : ran (first >>= next) workplace = (.error error, later) := by
  rw [ran_bind, h]

/-- What a sequence of two steps succeeds with comes from a success of each. -/
theorem ran_bind_eq_ok {first : Log.WorkAction ε α} {next : α → Log.WorkAction ε β} {result : β}
    (h : ran (first >>= next) workplace = (.ok result, later)) :
    ∃ value between, ran first workplace = (.ok value, between) ∧ ran (next value) between = (.ok result, later) := by
  rw [ran_bind] at h
  rcases ended : ran first workplace with ⟨_ | value, between⟩
  · rw [ended] at h
    cases h
  · rw [ended] at h
    exact ⟨value, between, rfl, h⟩

theorem ran_adapt (change : ε → ε') (action : Log.WorkAction ε α) (workplace : Log.Workplace) :
    ran (action.adapt change : Log.WorkAction ε' α) workplace =
      ((ran action workplace).1.mapError change, (ran action workplace).2) := rfl

theorem ran_adapt_eq_ok {change : ε → ε'} {action : Log.WorkAction ε α} {value : α}
    (h : ran (action.adapt change : Log.WorkAction ε' α) workplace = (.ok value, later)) :
    ran action workplace = (.ok value, later) := by
  rw [ran_adapt] at h
  rcases ended : ran action workplace with ⟨_ | found, between⟩ <;> rw [ended] at h <;> cases h
  rfl

theorem ran_orFault (ofError : ε → Fault) (result : Except ε α) (workplace : Log.Workplace) :
    ran (orFault ofError result) workplace = (result.mapError fun error => .fault (ofError error), workplace) := rfl

theorem ran_tellAll (lines : List String) (workplace : Log.Workplace) :
    ran (tellAll lines) workplace = (.ok (),
      { workplace with shown := lines.foldl (fun shown line => shown ++ line ++ "\n") workplace.shown }) := rfl

theorem ran_log (records : List Record) (workplace : Log.Workplace) :
    ran (log records) workplace = (.ok (), workplace.logAll records) := rfl

theorem ran_reading (look : FileSystem → Attempt ε α) (workplace : Log.Workplace) :
    ran (reading look) workplace =
      (.ok (look workplace.files).outcome, workplace.logAll (look workplace.files).records) := rfl

theorem ran_acting (step : FileStep α) (workplace : Log.Workplace) :
    ran (acting step) workplace = (.ok (step.run workplace.files).value.1,
      ({ workplace with files := (step.run workplace.files).value.2 } : Log.Workplace).logAll
        (step.run workplace.files).records) := rfl

/-- A line whose markup is right is shown. -/
theorem ran_print_ok (line : String) (plain : (Terminal.Markup.plain line).isOk = true) (cells : Nat)
    (workplace : Log.Workplace) : ∃ shown, ran (print cells line) workplace = (.ok (), { workplace with shown }) := by
  rw [print, ran_bind, ran_orFault]
  cases shown : Terminal.Markup.plain line with
  | error fault => rw [shown] at plain; cases plain
  | ok text => exact ⟨_, rfl⟩

/-! ## Steps that end by a fault only -/

/-- The step ends a run early only by a fault. -/
structure Yields (action : Action α) : Prop where
  fault : ∀ {workplace ending}, (ran action workplace).1 = .error ending → ∃ fault, ending = .fault fault

theorem Yields.bind {first : Action α} {next : α → Action β} (h : Yields first)
    (h' : ∀ value, Yields (next value)) : Yields (first >>= next) := by
  refine ⟨fun {workplace ending} ended => ?_⟩
  rw [ran_bind] at ended
  rcases result : ran first workplace with ⟨_ | value, between⟩
  · rw [result] at ended
    cases ended
    exact h.fault (congrArg Prod.fst result)
  · rw [result] at ended
    exact (h' value).fault ended

theorem yields_of_ok {action : Action α} (h : ∀ workplace, ∃ value, (ran action workplace).1 = .ok value) :
    Yields action := by
  refine ⟨fun {workplace ending} ended => ?_⟩
  obtain ⟨value, result⟩ := h workplace
  rw [result] at ended
  cases ended

theorem yields_orFault (ofError : ε → Fault) (result : Except ε α) : Yields (orFault ofError result) := by
  refine ⟨fun {workplace ending} ended => ?_⟩
  rw [ran_orFault] at ended
  cases result with
  | error error => exact ⟨ofError error, (Except.error.inj ended).symm⟩
  | ok value => cases ended

theorem yields_tellAll (lines : List String) : Yields (tellAll lines) := yields_of_ok fun _ => ⟨(), rfl⟩

theorem yields_acting (step : FileStep α) : Yields (acting step) := yields_of_ok fun _ => ⟨_, rfl⟩

theorem yields_pure (value : α) : Yields (pure value) := yields_of_ok fun _ => ⟨value, rfl⟩

theorem yields_print (cells : Nat) (line : String) : Yields (print cells line) :=
  (yields_orFault _ _).bind fun _ => yields_tellAll _

/-! ## What stands -/

/-- Modules were written over a base, and records go to free places only. -/
structure Standing (free : List Location) (base : FileSystem) (writes : List (Location × List UInt8))
    (workplace : Log.Workplace) : Prop where
  written : DataSet.Written free base writes workplace.files
  sinks : ∀ handler ∈ workplace.logging.handlers, ∀ place, handler.sink = .file place → place ∈ free

namespace Standing

variable {free : List Location} {base : FileSystem} {writes : List (Location × List UInt8)}

/-- A handler adds to a free file, if anything. -/
theorem emit (standing : Standing free base writes workplace) {handler : Log.Handler}
    (mem : handler ∈ workplace.logging.handlers) (moment : Log.Moment) (record : Record) :
    Standing free base writes (handler.emit workplace moment record) ∧
      (handler.emit workplace moment record).logging = workplace.logging := by
  unfold Log.Handler.emit
  split
  · dsimp only
    split
    · rename_i place sink
      have overlaid := standing.written.append (standing.sinks handler mem place sink)
        (Text.Utf8.encode (workplace.logging.line handler.sink moment record ++ "\n"))
      exact ⟨⟨⟨sink ▸ overlaid, standing.written.modules⟩, standing.sinks⟩, rfl⟩
    · exact ⟨⟨standing.written, standing.sinks⟩, rfl⟩
  · exact ⟨standing, rfl⟩

theorem log (standing : Standing free base writes workplace) (record : Record) :
    Standing free base writes (workplace.log record) := by
  have each (moment : Log.Moment) (handlers : List Log.Handler) : ∀ workplace,
      Standing free base writes workplace → handlers ⊆ workplace.logging.handlers →
      Standing free base writes
        (handlers.foldl (fun workplace handler => handler.emit workplace moment record) workplace) := by
    induction handlers with
    | nil => exact fun _ standing _ => standing
    | cons handler rest ih =>
      intro workplace standing within
      obtain ⟨mem, within⟩ := List.cons_subset.1 within
      obtain ⟨standing', logging⟩ := standing.emit mem moment record
      exact ih _ standing' (logging ▸ within)
  have ticked : Standing free base writes workplace.tick := ⟨standing.written, standing.sinks⟩
  unfold Log.Workplace.log
  split
  · exact each _ _ _ ticked (List.Subset.refl _)
  · exact ticked

theorem logAll (standing : Standing free base writes workplace) (records : List Record) :
    Standing free base writes (workplace.logAll records) := by
  induction records generalizing workplace with
  | nil => exact standing
  | cons record rest ih => exact ih (standing.log record)

end Standing

/-- The step keeps what stands. -/
structure Quiet (action : Action α) : Prop where
  keeps : ∀ {free base writes workplace}, Standing free base writes workplace →
    Standing free base writes (ran action workplace).2

theorem Quiet.bind {first : Action α} {next : α → Action β} (h : Quiet first)
    (h' : ∀ value, Quiet (next value)) : Quiet (first >>= next) := by
  refine ⟨fun {free base writes workplace} standing => ?_⟩
  have between := h.keeps standing
  rw [ran_bind]
  rcases result : ran first workplace with ⟨_ | value, later⟩
  · rwa [result] at between
  · rw [result] at between
    exact (h' value).keeps between

theorem Quiet.of_ok {action : Action α} (h : Quiet action) {free : List Location} {base : FileSystem}
    {writes : List (Location × List UInt8)} (standing : Standing free base writes workplace) {value : α}
    (ended : ran action workplace = (.ok value, later)) : Standing free base writes later := by
  have kept := h.keeps standing
  rwa [ended] at kept

theorem quiet_pure (value : α) : Quiet (pure value) := ⟨fun standing => standing⟩

theorem quiet_throw (ending : Ending) : Quiet (throw ending : Action α) := ⟨fun standing => standing⟩

theorem quiet_orFault (ofError : ε → Fault) (result : Except ε α) : Quiet (orFault ofError result) :=
  ⟨fun standing => standing⟩

theorem quiet_tellAll (lines : List String) : Quiet (tellAll lines) :=
  ⟨fun standing => ⟨standing.written, standing.sinks⟩⟩

theorem quiet_log (records : List Record) : Quiet (log records) :=
  ⟨fun standing => standing.logAll records⟩

theorem quiet_reading (look : FileSystem → Attempt ε α) : Quiet (reading look) :=
  ⟨fun standing => standing.logAll _⟩

theorem quiet_acting {step : FileStep α} (h : ∀ files, (step.run files).value.2 = files) : Quiet (acting step) := by
  refine ⟨fun {free base writes workplace} standing => ?_⟩
  rw [ran_acting, h]
  exact standing.logAll _

theorem quiet_print (cells : Nat) (line : String) : Quiet (print cells line) :=
  (quiet_orFault _ _).bind fun _ => quiet_tellAll _

theorem quiet_fail (message : String) : Quiet (fail message : Action α) :=
  (quiet_tellAll _).bind fun _ => quiet_throw _

theorem quiet_forIn {items : List α} {state : β} {step : α → β → Action (ForInStep β)}
    (h : ∀ item state, Quiet (step item state)) : Quiet (forIn items state step) := by
  induction items generalizing state with
  | nil => exact quiet_pure state
  | cons item rest ih =>
    rw [List.forIn_cons]
    refine (h item state).bind fun next => ?_
    cases next with
    | done state => exact quiet_pure state
    | yield state => exact ih

theorem quiet_conclude (cells : Nat) (summary : DataSet.Summary) : Quiet (conclude cells summary) := by
  refine (quiet_log _).bind fun _ => (quiet_tellAll _).bind fun _ => (quiet_print _ _).bind fun _ => ?_
  refine (quiet_forIn fun failure _ => (quiet_print _ _).bind fun _ => quiet_pure _).bind fun _ => ?_
  split
  · exact quiet_throw _
  · exact quiet_pure _

/-- A run without failures ends well. -/
theorem ran_conclude_ok (cells : Nat) {summary : DataSet.Summary} (errors : summary.errors = [])
    (failed : summary.failed = 0) (plain : (Terminal.Markup.plain (info (toString summary.succeeded ++ "/" ++
      toString summary.total ++ " data sets generated"))).isOk = true) (workplace : Log.Workplace) :
    ∃ later, ran (conclude cells summary) workplace = (.ok (), later) := by
  obtain ⟨shown, shows⟩ := ran_print_ok _ plain cells
    (ran (tell "") (workplace.logAll (DataSet.report logger summary.toTree).records)).2
  unfold conclude
  rw [errors, failed]
  exact ⟨_, (ran_bind_ok (ran_log _ _) _).trans ((ran_bind_ok (ran_tellAll _ _) _).trans
    ((ran_bind_ok shows _).trans rfl))⟩

end ViewModel.Command
