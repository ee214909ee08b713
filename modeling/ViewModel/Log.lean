/-!
# Log records

Loading, declaring and encoding report what they found amiss as records, in the order in which it was
found. `Logged` is a value with the records made on the way to it; an `Attempt` may end in an error and
keeps the records made until then.

* `Logged.bind_records`: the records of two steps are those of the first, then those of the second.
-/

namespace ViewModel

inductive Level
  | debug
  | info
  | warning
  | error
  | critical
  deriving DecidableEq, Repr

namespace Level

/-- Records of a higher rank pass a lower threshold. -/
def rank : Level → Nat
  | debug => 10
  | info => 20
  | warning => 30
  | error => 40
  | critical => 50

def name : Level → String
  | debug => "DEBUG"
  | info => "INFO"
  | warning => "WARNING"
  | error => "ERROR"
  | critical => "CRITICAL"

def all : List Level := [debug, info, warning, error, critical]

def ofName? (text : String) : Option Level :=
  all.find? (·.name == text)

end Level

/-- A word filled up with spaces to eight characters. -/
def column (word : String) : String :=
  word ++ String.ofList (List.replicate (8 - word.length) ' ')

/-- One line of the log: its level, the logger that made it, and its text. -/
structure Record where
  level : Level
  logger : String
  message : String
  deriving DecidableEq, Repr

/-- The logger that all others stand under. -/
def packageLogger : String := "noesisgen"

/-- The logger of a given name; every logger stands under the package's. -/
def loggerName (name : String) : String :=
  if name == packageLogger || (packageLogger ++ ".").isPrefixOf name then name
  else packageLogger ++ "." ++ name

/-- A value, and the records made on the way to it. -/
structure Logged (α : Type u) where
  value : α
  records : List Record

namespace Logged

instance : Monad Logged where
  pure value := ⟨value, []⟩
  bind step next :=
    let rest := next step.value
    ⟨rest.value, step.records ++ rest.records⟩

def record (level : Level) (logger message : String) : Logged Unit :=
  ⟨(), [⟨level, logger, message⟩]⟩

@[simp] theorem pure_value (value : α) : (pure value : Logged α).value = value := rfl

@[simp] theorem pure_records (value : α) : (pure value : Logged α).records = [] := rfl

@[simp] theorem bind_value (step : Logged α) (next : α → Logged β) :
    (step >>= next).value = (next step.value).value := rfl

@[simp] theorem bind_records (step : Logged α) (next : α → Logged β) :
    (step >>= next).records = step.records ++ (next step.value).records := rfl

theorem id_map (step : Logged α) : id <$> step = step := by
  change (⟨step.value, step.records ++ []⟩ : Logged _) = step
  rw [List.append_nil]

theorem bind_assoc (step : Logged α) (next : α → Logged β) (last : β → Logged γ) :
    step >>= next >>= last = step >>= fun value => next value >>= last := by
  change (⟨_, (_ ++ _) ++ _⟩ : Logged _) = ⟨_, _ ++ (_ ++ _)⟩
  rw [List.append_assoc]
  rfl

instance : LawfulMonad Logged := LawfulMonad.mk' Logged id_map (fun _ _ => rfl) bind_assoc

end Logged

/-- A computation that makes records and may end in an error. -/
abbrev Attempt (ε α : Type) := ExceptT ε Logged α

def Attempt.record {ε : Type} (level : Level) (logger message : String) : Attempt ε Unit :=
  ExceptT.lift (Logged.record level logger message)

def Attempt.ofExcept {ε α : Type} (result : Except ε α) : Attempt ε α :=
  ExceptT.mk (pure result)

def Attempt.outcome {ε α : Type} (attempt : Attempt ε α) : Except ε α :=
  attempt.run.value

/-- The records of an attempt, whichever way it ended. -/
def Attempt.records {ε α : Type} (attempt : Attempt ε α) : List Record :=
  attempt.run.records

end ViewModel
