import Mathlib.Data.List.Forall2
import ViewModel.Log

/-!
# What logged steps come to

The value and the records of a computation, and the outcome of one that may end in an error, from those of
its steps.

* `mapM_congr_of_forall₂`: steps for every item of two lists that agree one by one;
* `Logged.value_mapM`, `Logged.records_mapM`: a step for every item of a list;
* `outcome_bind`, `records_bind`: a later step runs only if the earlier one succeeds, and its records
  come after those of the earlier one;
* `outcome_mapM`, `outcome_foldlM`: a step for every item of a list ends as the outcomes of the items do,
  taken in order;
* `mapM_eq_ok_iff`, `mapM_of_ok`, `mapM_of_error`, `records_mapM_of_ok`: steps that all succeed, and steps
  of which some fail in the same way;
* `Settles`: an attempt that succeeds and makes no record but allowed ones;
* `Warns`: an attempt that records a warning or something graver, and so does what it is a step of.
-/

namespace ViewModel

/-- Steps that agree on the items of two lists, one by one, come to the same together. -/
theorem mapM_congr_of_forall₂ {m : Type u → Type v} [Monad m] [LawfulMonad m] {step : α → m γ} {step' : β → m γ}
    {items : List α} {others : List β} (h : List.Forall₂ (fun item other => step item = step' other) items others) :
    items.mapM step = others.mapM step' := by
  induction h with
  | nil => rfl
  | cons same _ ih => rw [List.mapM_cons, List.mapM_cons, same, ih]

namespace Logged

theorem value_mapM (step : α → Logged β) (items : List α) :
    (items.mapM step).value = items.map fun item => (step item).value := by
  induction items with
  | nil => rfl
  | cons item rest ih => rw [List.mapM_cons, bind_value, bind_value, pure_value, ih, List.map_cons]

theorem records_mapM (step : α → Logged β) (items : List α) :
    (items.mapM step).records = items.flatMap fun item => (step item).records := by
  induction items with
  | nil => rfl
  | cons item rest ih =>
    rw [List.mapM_cons, bind_records, bind_records, pure_records, ih, List.append_nil, List.flatMap_cons]

end Logged

namespace Attempt

variable {ε ε' α β : Type}

@[simp] theorem outcome_pure (value : α) : (pure value : Attempt ε α).outcome = .ok value := rfl

@[simp] theorem records_pure (value : α) : (pure value : Attempt ε α).records = [] := rfl

@[simp] theorem outcome_throw (error : ε) : (throw error : Attempt ε α).outcome = .error error := rfl

@[simp] theorem records_throw (error : ε) : (throw error : Attempt ε α).records = [] := rfl

@[simp] theorem outcome_ofExcept (result : Except ε α) : (ofExcept result).outcome = result := rfl

@[simp] theorem records_record (level : Level) (logger message : String) :
    (record level logger message : Attempt ε Unit).records = [⟨level, logger, message⟩] := rfl

@[simp] theorem outcome_lift (step : Logged α) :
    Attempt.outcome (ExceptT.lift step : Attempt ε α) = .ok step.value := rfl

/-- An attempt that is looked at from outside ends in its own outcome. -/
theorem outcome_lift_run (attempt : Attempt ε α) :
    Attempt.outcome (ExceptT.lift attempt.run : Attempt ε' (Except ε α)) = .ok attempt.outcome := rfl

theorem outcome_bind (first : Attempt ε α) (next : α → Attempt ε β) :
    Attempt.outcome (first >>= next) = first.outcome >>= fun value => (next value).outcome := by
  obtain ⟨result, records⟩ := first
  cases result <;> rfl

theorem records_bind (first : Attempt ε α) (next : α → Attempt ε β) :
    Attempt.records (first >>= next) =
      first.records ++ match first.outcome with
        | .ok value => (next value).records
        | .error _ => [] := by
  obtain ⟨result, records⟩ := first
  cases result <;> rfl

theorem outcome_adapt (change : ε → ε') (attempt : Attempt ε α) :
    Attempt.outcome (attempt.adapt change) = attempt.outcome.mapError change := rfl

theorem records_adapt (change : ε → ε') (attempt : Attempt ε α) :
    Attempt.records (attempt.adapt change) = attempt.records :=
  List.append_nil attempt.records

theorem outcome_bind_ok {first : Attempt ε α} {value : α} (h : first.outcome = .ok value)
    (next : α → Attempt ε β) : Attempt.outcome (first >>= next) = (next value).outcome := by
  rw [outcome_bind, h]
  rfl

theorem records_bind_ok {first : Attempt ε α} {value : α} (h : first.outcome = .ok value)
    (next : α → Attempt ε β) :
    Attempt.records (first >>= next) = first.records ++ (next value).records := by
  rw [records_bind, h]

theorem outcome_map_ok {attempt : Attempt ε α} {value : α} (h : attempt.outcome = .ok value) (change : α → β) :
    Attempt.outcome (change <$> attempt) = .ok (change value) := by
  rw [map_eq_pure_bind, outcome_bind_ok h, outcome_pure]

theorem records_liftM_bind (step : Logged α) (next : α → Attempt ε β) :
    Attempt.records ((liftM step : Attempt ε α) >>= next) = step.records ++ (next step.value).records := by
  have ended : Attempt.outcome (liftM step : Attempt ε α) = .ok step.value := rfl
  rw [records_bind_ok ended]
  exact congrArg (· ++ _) (List.append_nil step.records)

/-- A later step matters only for the value that the first one ends in. -/
theorem bind_congr_of_outcome {first : Attempt ε α} {next other : α → Attempt ε β}
    (h : ∀ value, first.outcome = .ok value → next value = other value) : first >>= next = first >>= other := by
  obtain ⟨result, records⟩ := first
  cases result with
  | error error => rfl
  | ok value =>
    have same := h value rfl
    change (⟨(next value).run.value, records ++ (next value).run.records⟩ : Logged (Except ε β)) =
      ⟨(other value).run.value, records ++ (other value).run.records⟩
    rw [same]

/-- What a sequence of two steps succeeds with comes from a success of each. -/
theorem outcome_bind_eq_ok {first : Attempt ε α} {next : α → Attempt ε β} {result : β}
    (h : Attempt.outcome (first >>= next) = .ok result) :
    ∃ value, first.outcome = .ok value ∧ (next value).outcome = .ok result := by
  rw [outcome_bind] at h
  cases outcome : first.outcome with
  | error error => rw [outcome] at h; cases h
  | ok value => exact ⟨value, rfl, by rw [outcome] at h; exact h⟩

theorem outcome_mapM (step : α → Attempt ε β) (items : List α) :
    Attempt.outcome (items.mapM step) = items.mapM fun item => (step item).outcome := by
  induction items with
  | nil => rfl
  | cons item rest ih =>
    rw [List.mapM_cons, List.mapM_cons, outcome_bind]
    congr 1
    funext value
    rw [outcome_bind, ih]
    rfl

theorem outcome_foldlM (step : β → α → Attempt ε β) (start : β) (items : List α) :
    Attempt.outcome (items.foldlM step start) =
      items.foldlM (fun reached item => (step reached item).outcome) start := by
  induction items generalizing start with
  | nil => rfl
  | cons item rest ih =>
    rw [List.foldlM_cons, List.foldlM_cons, outcome_bind]
    congr 1
    funext reached
    exact ih reached

/-- Every result of steps that all succeed is the result of one of them. -/
theorem exists_of_mem_mapM {step : α → Except ε β} {items : List α} {results : List β} {result : β}
    (h : items.mapM step = .ok results) (mem : result ∈ results) :
    ∃ item ∈ items, step item = .ok result := by
  induction items generalizing results with
  | nil => cases h; cases mem
  | cons item rest ih =>
    rw [List.mapM_cons] at h
    cases first : step item with
    | error error => rw [first] at h; cases h
    | ok value =>
      cases later : rest.mapM step with
      | error error => rw [first, later] at h; cases h
      | ok values =>
        rw [first, later] at h
        cases h
        rcases List.mem_cons.1 mem with rfl | mem
        · exact ⟨item, List.mem_cons_self, first⟩
        · obtain ⟨item, found, ended⟩ := ih later mem
          exact ⟨item, List.mem_cons_of_mem _ found, ended⟩

/-- Steps succeed with results if each of them does with its own. -/
theorem mapM_eq_ok_iff {step : α → Except ε β} {items : List α} {results : List β} :
    items.mapM step = .ok results ↔ items.map step = results.map .ok := by
  induction items generalizing results with
  | nil => cases results <;> simp [pure, Except.pure]
  | cons item rest ih =>
    rw [List.mapM_cons, List.map_cons]
    cases results with
    | nil =>
      refine iff_of_false (fun h => ?_) (List.cons_ne_nil _ _)
      cases first : step item with
      | error error => rw [first] at h; cases h
      | ok value => cases later : rest.mapM step <;> rw [first, later] at h <;> cases h
    | cons result results =>
      rw [List.map_cons, List.cons.injEq, ← ih]
      cases first : step item with
      | error error => exact iff_of_false nofun nofun
      | ok value =>
        cases later : rest.mapM step with
        | error error => exact iff_of_false nofun nofun
        | ok values =>
          change Except.ok (value :: values) = .ok (result :: results) ↔ _
          simp only [Except.ok.injEq, List.cons.injEq]

/-- Steps that all succeed succeed together. -/
theorem exists_mapM_eq_ok {step : α → Except ε β} {items : List α}
    (h : ∀ item ∈ items, ∃ result, step item = .ok result) : ∃ results, items.mapM step = .ok results := by
  induction items with
  | nil => exact ⟨[], rfl⟩
  | cons item rest ih =>
    obtain ⟨result, first⟩ := h item List.mem_cons_self
    obtain ⟨results, later⟩ := ih fun item mem => h item (List.mem_cons_of_mem _ mem)
    refine ⟨result :: results, ?_⟩
    rw [List.mapM_cons, first, later]
    rfl

/-- Steps that all succeed succeed with the list of their results. -/
theorem mapM_of_ok {step : α → Except ε β} {result : α → β} {items : List α}
    (h : ∀ item ∈ items, step item = .ok (result item)) : items.mapM step = .ok (items.map result) := by
  induction items with
  | nil => rfl
  | cons item rest ih =>
    rw [List.mapM_cons, h item List.mem_cons_self, ih fun item mem => h item (List.mem_cons_of_mem _ mem)]
    rfl

/-- Steps of which some fail, all with the same error, fail with it. -/
theorem mapM_of_error {step : α → Except ε β} {error : ε} {items : List α}
    (h : ∀ item ∈ items, (∃ result, step item = .ok result) ∨ step item = .error error)
    (fails : ∃ item ∈ items, step item = .error error) : items.mapM step = .error error := by
  induction items with
  | nil =>
    obtain ⟨item, mem, -⟩ := fails
    cases mem
  | cons item rest ih =>
    obtain ⟨here, there⟩ := List.forall_mem_cons.1 h
    rw [List.mapM_cons]
    rcases here with ⟨result, ended⟩ | ended <;> rw [ended]
    · have later : ∃ item ∈ rest, step item = .error error := by
        obtain ⟨other, mem, failed⟩ := fails
        rcases List.mem_cons.1 mem with rfl | mem
        · rw [ended] at failed
          cases failed
        · exact ⟨other, mem, failed⟩
      rw [ih there later]
      rfl
    · rfl

/-- Steps that all succeed make their records one after another. -/
theorem records_mapM_of_ok {step : α → Attempt ε β} {result : α → β} {items : List α}
    (h : ∀ item ∈ items, (step item).outcome = .ok (result item)) :
    Attempt.records (items.mapM step) = items.flatMap fun item => (step item).records := by
  induction items with
  | nil => rfl
  | cons item rest ih =>
    obtain ⟨here, there⟩ := List.forall_mem_cons.1 h
    have ended : Attempt.outcome (rest.mapM step) = .ok (rest.map result) :=
      (outcome_mapM step rest).trans (mapM_of_ok there)
    rw [List.mapM_cons, records_bind_ok here, records_bind_ok ended, records_pure, ih there,
      List.append_nil, List.flatMap_cons]

/-- The attempt succeeds, and every record it makes is allowed. -/
def Settles (allowed : Record → Prop) (attempt : Attempt ε α) : Prop :=
  (∃ value, attempt.outcome = .ok value) ∧ ∀ record ∈ attempt.records, allowed record

namespace Settles

variable {allowed : Record → Prop}

theorem pure (value : α) : Settles (ε := ε) allowed (Pure.pure value) :=
  ⟨⟨value, rfl⟩, by simp⟩

theorem record {level : Level} {logger message : String} (h : allowed ⟨level, logger, message⟩) :
    Settles (ε := ε) allowed (Attempt.record level logger message) :=
  ⟨⟨(), rfl⟩, by simpa using h⟩

theorem bind {first : Attempt ε α} {next : α → Attempt ε β} (h : Settles allowed first)
    (h' : ∀ value, Settles allowed (next value)) : Settles allowed (first >>= next) := by
  obtain ⟨⟨value, ended⟩, firsts⟩ := h
  obtain ⟨⟨result, ended'⟩, nexts⟩ := h' value
  refine ⟨⟨result, by rw [outcome_bind_ok ended, ended']⟩, ?_⟩
  intro record mem
  rw [records_bind_ok ended] at mem
  rcases List.mem_append.1 mem with mem | mem
  · exact firsts record mem
  · exact nexts record mem

theorem mapM {step : α → Attempt ε β} {items : List α} (h : ∀ item ∈ items, Settles allowed (step item)) :
    Settles allowed (items.mapM step) := by
  induction items with
  | nil => exact pure []
  | cons item rest ih =>
    rw [List.mapM_cons]
    refine bind (h item List.mem_cons_self) fun value => bind (ih ?_) fun values => pure _
    exact fun item mem => h item (List.mem_cons_of_mem _ mem)

end Settles

/-- The attempt records a warning, or something graver. -/
def Warns (attempt : Attempt ε α) : Prop :=
  ∃ record ∈ attempt.records, Level.warning.rank ≤ record.level.rank

namespace Warns

theorem not_pure (value : α) : ¬ Warns (Pure.pure value : Attempt ε α) := by
  rintro ⟨record, mem, -⟩
  cases mem

theorem bind_left {first : Attempt ε α} (h : first.Warns) (next : α → Attempt ε β) :
    Attempt.Warns (first >>= next) := by
  obtain ⟨record, mem, grave⟩ := h
  refine ⟨record, ?_, grave⟩
  rw [records_bind]
  exact List.mem_append_left _ mem

theorem bind_right {first : Attempt ε α} {value : α} (ended : first.outcome = .ok value)
    {next : α → Attempt ε β} (h : (next value).Warns) : Attempt.Warns (first >>= next) := by
  obtain ⟨record, mem, grave⟩ := h
  refine ⟨record, ?_, grave⟩
  rw [records_bind_ok ended]
  exact List.mem_append_right _ mem

theorem mapM {step : α → Attempt ε β} {items : List α}
    (ended : ∀ item ∈ items, ∃ result, (step item).outcome = .ok result) {item : α} (mem : item ∈ items)
    (h : (step item).Warns) : Attempt.Warns (items.mapM step) := by
  induction items with
  | nil => cases mem
  | cons first rest ih =>
    obtain ⟨⟨result, here⟩, there⟩ := List.forall_mem_cons.1 ended
    rw [List.mapM_cons]
    rcases List.mem_cons.1 mem with rfl | mem
    · exact bind_left h _
    · exact bind_right here (bind_left (ih there mem) _)

end Warns

end Attempt

end ViewModel
