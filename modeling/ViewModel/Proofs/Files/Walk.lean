import ViewModel.Files.FileSystem

/-!
# Walking one step at a time

A walk goes on from each step with the links that may still be followed, the place it came to, and the
steps that a link put before those that remain.

* `advance`, `walk_cons`: one step, and a walk as a step and the walk from there;
* `advance_eq`: all that a step can do, which is to lead onward, and along a link if it comes to one;
* `walk_induction`: what every step passes on holds of every walk;
* `exists_of_walk_append`: a walk in two parts;
* `walk_unique`: where a walk ends does not depend on how many links it may follow.
-/

namespace ViewModel.Files.FileSystem

/-- Where a walk stands after a step, and how it goes on from there. -/
structure Stage where
  links : Nat
  place : Location
  steps : List String := []

/-- A single step of a walk. -/
def advance (files : FileSystem) (links : Nat) (place : Location) (step : String) : Except Cause Stage :=
  match files.lookup? place with
  | none => .error .missing
  | some .directory =>
    if files.meets place .impassable then .error .denied
    else if step = "." then .ok { links, place }
    else if step = ".." then .ok { links, place := place.dropLast }
    else if nameLimit < step.utf8ByteSize then .error .nameTooLong
    else
      match files.lookup? (place ++ [step]) with
      | some (.link target) =>
        match links with
        | 0 => .error .tooManyLinks
        | links + 1 => .ok ⟨links, start (Path.ofText target) place, (Path.ofText target).parts⟩
      | _ => .ok { links, place := place ++ [step] }
  | some _ => .error .notDirectory

variable {files : FileSystem}

@[simp] theorem walk_nil (links : Nat) (place : Location) : files.walk links place [] = .ok place := by
  rw [walk]

theorem walk_cons (files : FileSystem) (links : Nat) (place : Location) (step : String) (rest : List String) :
    files.walk links place (step :: rest) =
      match files.advance links place step with
      | .error cause => .error cause
      | .ok stage => files.walk stage.links stage.place (stage.steps ++ rest) := by
  rw [walk.eq_def, advance]
  cases files.lookup? place with
  | none => rfl
  | some entry =>
    cases entry with
    | file | link => rfl
    | directory =>
      dsimp only
      split
      · rfl
      · split
        · rfl
        · split
          · rfl
          · split
            · rfl
            · cases files.lookup? (place ++ [step]) with
              | none => rfl
              | some below =>
                cases below with
                | directory | file => rfl
                | link target => cases links <;> rfl

/-! ## Single steps -/

/-- Where a step leads from a directory while no link is in the way. -/
def onward (files : FileSystem) (place : Location) (step : String) : Except Cause Location :=
  if files.meets place .impassable then .error .denied
  else if step = "." then .ok place
  else if step = ".." then .ok place.dropLast
  else if nameLimit < step.utf8ByteSize then .error .nameTooLong
  else .ok (place ++ [step])

/-- The target of the link that a step comes to. -/
def link? (files : FileSystem) (place : Location) (step : String) : Option String :=
  if step = "." ∨ step = ".." then none
  else
    match files.lookup? (place ++ [step]) with
    | some (.link target) => some target
    | _ => none

/-- How a walk stands that came to a place from a directory, and to the link of a target there. -/
def arrive (links : Nat) (directory place : Location) : Option String → Except Cause Stage
  | none => .ok { links, place }
  | some target =>
    match links with
    | 0 => .error .tooManyLinks
    | links + 1 => .ok ⟨links, start (Path.ofText target) directory, (Path.ofText target).parts⟩

theorem advance_eq {links : Nat} {place : Location} {step : String}
    (there : files.lookup? place = some .directory) :
    files.advance links place step =
      files.onward place step >>= fun reached => arrive links place reached (files.link? place step) := by
  unfold advance onward link?
  rw [there]
  dsimp only
  by_cases closed : files.meets place .impassable
  · rw [if_pos closed, if_pos closed]
    rfl
  rw [if_neg closed, if_neg closed]
  by_cases stays : step = "."
  · rw [if_pos stays, if_pos stays, if_pos (.inl stays)]
    rfl
  rw [if_neg stays, if_neg stays]
  by_cases goesUp : step = ".."
  · rw [if_pos goesUp, if_pos goesUp, if_pos (.inr goesUp)]
    rfl
  rw [if_neg goesUp, if_neg goesUp, if_neg (not_or.2 ⟨stays, goesUp⟩)]
  by_cases long : nameLimit < step.utf8ByteSize
  · rw [if_pos long, if_pos long]
    rfl
  rw [if_neg long, if_neg long]
  cases files.lookup? (place ++ [step]) with
  | none => rfl
  | some entry =>
    cases entry with
    | directory | file => rfl
    | link target => cases links <;> rfl

/-- Only from a directory a step leads on. -/
theorem directory_of_advance {links : Nat} {place : Location} {step : String} {stage : Stage}
    (h : files.advance links place step = .ok stage) : files.lookup? place = some .directory := by
  unfold advance at h
  split at h
  · cases h
  · assumption
  · cases h

theorem advance_eq_ok_iff {links : Nat} {place : Location} {step : String} {stage : Stage} :
    files.advance links place step = .ok stage ↔
      files.lookup? place = some .directory ∧ ∃ reached, files.onward place step = .ok reached ∧
        arrive links place reached (files.link? place step) = .ok stage := by
  constructor
  · intro h
    have there := directory_of_advance h
    rw [advance_eq there] at h
    refine ⟨there, ?_⟩
    cases leads : files.onward place step with
    | error cause => rw [leads] at h; cases h
    | ok reached => rw [leads] at h; exact ⟨reached, rfl, h⟩
  · rintro ⟨there, reached, leads, arrives⟩
    rw [advance_eq there, leads]
    exact arrives

theorem link?_eq_some_iff {place : Location} {step target : String} :
    files.link? place step = some target ↔
      (step ≠ "." ∧ step ≠ "..") ∧ files.lookup? (place ++ [step]) = some (.link target) := by
  unfold link?
  rw [← not_or]
  split
  · rename_i dots
    exact ⟨nofun, fun h => absurd dots h.1⟩
  · rename_i named
    rw [and_iff_right named]
    cases files.lookup? (place ++ [step]) with
    | none => simp
    | some entry => cases entry <;> simp

theorem link?_of_unlinked {place : Location} {step : String}
    (unlinked : ∀ target, files.lookup? (place ++ [step]) ≠ some (.link target)) :
    files.link? place step = none :=
  Option.eq_none_iff_forall_ne_some.2 fun target found => unlinked target (link?_eq_some_iff.1 found).2

theorem onward_of_named {step : String} (named : step ≠ "." ∧ step ≠ "..") (place : Location) :
    files.onward place step =
      if files.meets place .impassable then .error .denied
      else if nameLimit < step.utf8ByteSize then .error .nameTooLong
      else .ok (place ++ [step]) := by
  rw [onward, if_neg named.1, if_neg named.2]

theorem onward_eq_ok_iff {step : String} (named : step ≠ "." ∧ step ≠ "..") {place reached : Location} :
    files.onward place step = .ok reached ↔
      files.meets place .impassable = false ∧ step.utf8ByteSize ≤ nameLimit ∧ reached = place ++ [step] := by
  rw [onward_of_named named]
  cases files.meets place .impassable with
  | true => simp
  | false =>
    by_cases long : nameLimit < step.utf8ByteSize
    · simp [long, Nat.not_le.2 long]
    · simp [long, Nat.not_lt.1 long, eq_comm]

section

variable {later : FileSystem} (same : later.obstacles = files.obstacles)
include same

/-- The same obstacles are met. -/
theorem meets_congr (place : Location) (obstacle : Obstacle) :
    later.meets place obstacle = files.meets place obstacle := by
  rw [meets, same, ← meets]

theorem onward_congr : later.onward = files.onward := by
  funext place step
  rw [onward, meets_congr same, ← onward]

end

theorem advance_of_unlinked {links : Nat} {place : Location} {step : String}
    (there : files.lookup? place = some .directory)
    (unlinked : ∀ target, files.lookup? (place ++ [step]) ≠ some (.link target)) :
    files.advance links place step =
      (files.onward place step).map fun reached => { links, place := reached } := by
  rw [advance_eq there, link?_of_unlinked unlinked]
  rfl

/-- A step leads onward, or to a link that is followed from there. -/
theorem onward_of_advance {links : Nat} {place : Location} {step : String} {stage : Stage}
    (h : files.advance links place step = .ok stage) :
    ∃ reached, files.onward place step = .ok reached ∧
      (stage = { links, place := reached } ∨ ∃ target, files.lookup? reached = some (.link target)) := by
  obtain ⟨-, reached, leads, arrives⟩ := advance_eq_ok_iff.1 h
  refine ⟨reached, leads, ?_⟩
  cases found : files.link? place step with
  | none =>
    rw [found] at arrives
    exact .inl (Except.ok.inj arrives).symm
  | some target =>
    obtain ⟨named, link⟩ := link?_eq_some_iff.1 found
    rw [((onward_eq_ok_iff named).1 leads).2.2]
    exact .inr ⟨target, link⟩

/-! ## Walks -/

/-- A step follows a link, or leaves no more to do than the steps that remain. -/
theorem advance_decreases {links : Nat} {place : Location} {step : String} {stage : Stage}
    (h : files.advance links place step = .ok stage) :
    stage.links < links ∨ stage.links = links ∧ stage.steps = [] := by
  obtain ⟨-, reached, -, arrives⟩ := advance_eq_ok_iff.1 h
  cases found : files.link? place step with
  | none =>
    rw [found] at arrives
    cases arrives
    exact .inr ⟨rfl, rfl⟩
  | some target =>
    rw [found] at arrives
    cases links with
    | zero => cases arrives
    | succ links => cases arrives; exact .inl (Nat.lt_succ_self _)

theorem walk_induction (files : FileSystem) {P : Nat → Location → List String → Prop}
    (done : ∀ links place, P links place [])
    (goesOn : ∀ links place step rest,
      (∀ stage, files.advance links place step = .ok stage →
        P stage.links stage.place (stage.steps ++ rest)) → P links place (step :: rest))
    (links : Nat) (place : Location) (steps : List String) : P links place steps := by
  match steps with
  | [] => exact done links place
  | step :: rest =>
    refine goesOn links place step rest fun stage reached => ?_
    have less : stage.links < links ∨
        stage.links = links ∧ (stage.steps ++ rest).length < rest.length + 1 := by
      rcases advance_decreases reached with fewer | ⟨same, none⟩
      · exact .inl fewer
      · exact .inr ⟨same, by simp [none]⟩
    exact walk_induction files done goesOn stage.links stage.place (stage.steps ++ rest)
termination_by (links, steps.length)
decreasing_by
  rcases less with fewer | ⟨same, shorter⟩
  · exact Prod.Lex.left _ _ fewer
  · rw [same]
    exact Prod.Lex.right _ shorter

/-- A walk in two parts passes the place where the first part ends. -/
theorem exists_of_walk_append {links : Nat} {place reached : Location} {before after : List String}
    (h : files.walk links place (before ++ after) = .ok reached) :
    ∃ left between, files.walk links place before = .ok between ∧
      files.walk left between after = .ok reached := by
  induction links, place, before using walk_induction files with
  | done links place => exact ⟨links, place, walk_nil links place, h⟩
  | goesOn links place step rest ih =>
    rw [List.cons_append, walk_cons] at h
    rw [walk_cons]
    cases advanced : files.advance links place step with
    | error cause => rw [advanced] at h; cases h
    | ok stage =>
      rw [advanced] at h
      refine ih stage advanced ?_
      rwa [List.append_assoc]

theorem advance_add {links : Nat} {place : Location} {step : String} {stage : Stage}
    (h : files.advance links place step = .ok stage) (more : Nat) :
    files.advance (links + more) place step = .ok { stage with links := stage.links + more } := by
  obtain ⟨there, reached, leads, arrives⟩ := advance_eq_ok_iff.1 h
  refine advance_eq_ok_iff.2 ⟨there, reached, leads, ?_⟩
  cases found : files.link? place step with
  | none =>
    rw [found] at arrives
    cases arrives
    rfl
  | some target =>
    rw [found] at arrives
    cases links with
    | zero => cases arrives
    | succ links =>
      cases arrives
      rw [Nat.succ_add]
      rfl

theorem walk_add {links : Nat} {place reached : Location} {steps : List String}
    (h : files.walk links place steps = .ok reached) (more : Nat) :
    files.walk (links + more) place steps = .ok reached := by
  induction links, place, steps using walk_induction files with
  | done links place => rwa [walk_nil] at h ⊢
  | goesOn links place step rest ih =>
    rw [walk_cons] at h
    cases advanced : files.advance links place step with
    | error cause => rw [advanced] at h; cases h
    | ok stage =>
      rw [advanced] at h
      rw [walk_cons, advance_add advanced more]
      exact ih stage advanced h

theorem walk_unique {links others : Nat} {place first second : Location} {steps : List String}
    (h : files.walk links place steps = .ok first) (h' : files.walk others place steps = .ok second) :
    first = second := by
  have one := walk_add h others
  rw [Nat.add_comm, walk_add h' links] at one
  exact (Except.ok.inj one).symm

end ViewModel.Files.FileSystem
