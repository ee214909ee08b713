import ViewModel.Proofs.Files.Walk

/-!
# Removing dead ends

Some files are spoiled. Entries of a file system are removed that lead to nothing but spoiled files. No walk
to anything else passes one of them, so everything else is found where it was.

* `DeadEnd`: a spoiled file, or a link that leads to none but spoiled files;
* `walk_eraseAll`: every walk ends as before, or it ended at nothing of use and now ends nowhere;
* `stat_eraseAll`: what a path leads to is as before, or was of no use and is now missing;
* `read_eraseAll`: what is not spoiled is read as before.
-/

namespace ViewModel.Files.FileSystem

variable {files : FileSystem} {gone : List Location} {spoiled : Location → Prop}

/-- The file system with nothing at some places. -/
def eraseAll (files : FileSystem) (gone : List Location) : FileSystem := gone.foldl erase files

theorem here_eraseAll (files : FileSystem) (gone : List Location) :
    (files.eraseAll gone).here = files.here := by
  induction gone generalizing files with
  | nil => rfl
  | cons place rest ih => exact ih (files.erase place)

theorem obstacles_eraseAll (files : FileSystem) (gone : List Location) :
    (files.eraseAll gone).obstacles = files.obstacles := by
  induction gone generalizing files with
  | nil => rfl
  | cons place rest ih => exact ih (files.erase place)

theorem meets_eraseAll (files : FileSystem) (gone : List Location) (place : Location) (obstacle : Obstacle) :
    (files.eraseAll gone).meets place obstacle = files.meets place obstacle :=
  meets_congr (obstacles_eraseAll files gone) place obstacle

theorem entries_eraseAll (files : FileSystem) (gone : List Location) :
    (files.eraseAll gone).entries = files.entries.filter fun entry => decide (entry.1 ∉ gone) := by
  induction gone generalizing files with
  | nil => exact (List.filter_eq_self.2 (by simp)).symm
  | cons place rest ih =>
    have later := ih (files.erase place)
    change ((files.erase place).eraseAll rest).entries = _
    rw [later, erase, List.filter_filter]
    refine List.filter_congr fun entry _ => ?_
    by_cases same : entry.1 = place <;> simp [same]

theorem lookup?_eraseAll (files : FileSystem) (inside : [] ∉ gone) (place : Location) :
    (files.eraseAll gone).lookup? place = if place ∈ gone then none else files.lookup? place := by
  induction gone generalizing files with
  | nil => rfl
  | cons first rest ih =>
    have apart : first ≠ [] := fun same => inside (by simp [same])
    have later := ih (files.erase first) fun mem => inside (List.mem_cons_of_mem _ mem)
    change ((files.erase first).eraseAll rest).lookup? place = _
    rw [later, lookup?_erase files place apart]
    by_cases mem : place ∈ rest <;> by_cases same : place = first <;> simp [mem, same]

/-! ## Where paths lead -/

theorem locate_eq_ok_iff {path : Path} {place : Location} :
    files.locate path = .ok place ↔ checkText path.text = .ok () ∧
      files.walk linkLimit (start path files.here) path.parts = .ok place := by
  unfold locate
  cases checkText path.text with
  | error cause => exact ⟨nofun, fun h => nomatch h.1⟩
  | ok => exact ⟨fun h => ⟨rfl, h⟩, fun h => h.2⟩

theorem exists_of_stat {path : Path} {entry : Entry} (h : files.stat path = .ok entry) :
    ∃ reached, files.locate path = .ok reached ∧ files.lookup? reached = some entry := by
  unfold stat at h
  cases located : files.locate path with
  | error cause => rw [located] at h; cases h
  | ok reached =>
    rw [located] at h
    change files.present reached = .ok entry at h
    unfold present at h
    split at h
    · cases h
    · rename_i held
      cases h
      exact ⟨reached, rfl, held⟩

theorem exists_of_read {path : Path} {content : List UInt8} (h : files.read path = .ok content) :
    ∃ reached, files.locate path = .ok reached ∧ files.contentAt reached = .ok content := by
  unfold read at h
  cases located : files.locate path with
  | error cause => rw [located] at h; cases h
  | ok reached =>
    rw [located] at h
    change (files.contentAt reached).mapError _ = .ok content at h
    cases held : files.contentAt reached with
    | error cause => rw [held] at h; cases h
    | ok held' => rw [held] at h; cases h; exact ⟨reached, rfl, held⟩

theorem read_of_located {path : Path} {reached : Location} (located : files.locate path = .ok reached) :
    files.read path = (files.contentAt reached).mapError (⟨·, path⟩) := by
  rw [read, located]
  rfl

/-! ## Dead ends -/

/-- What an entry leads to once no link follows is of no use: it is no directory, and no file but a
spoiled one. -/
def Useless (spoiled : Location → Prop) (place : Location) (entry : Entry) : Prop :=
  entry ≠ .directory ∧ ((∃ content, entry = .file content) → spoiled place)

theorem useless_file {place : Location} (content : List UInt8) (bad : spoiled place) :
    Useless spoiled place (.file content) :=
  ⟨nofun, fun _ => bad⟩

theorem useless_link (place : Location) (target : String) : Useless spoiled place (.link target) :=
  ⟨nofun, nofun⟩

/-- The entry at a place leads to spoiled files only. -/
inductive DeadEnd (files : FileSystem) (spoiled : Location → Prop) (place : Location) : Prop
  | file {content : List UInt8} (here : files.lookup? place = some (.file content))
      (bad : spoiled place)
  | link {target : String} (here : files.lookup? place = some (.link target))
      (leads : ∀ links reached,
        files.walk links (start (Path.ofText target) place.dropLast) (Path.ofText target).parts =
          .ok reached → (∃ content, files.lookup? reached = some (.file content)) ∧ spoiled reached)

theorem DeadEnd.useless {place : Location} (dead : DeadEnd files spoiled place) :
    ∃ entry, files.lookup? place = some entry ∧ Useless spoiled place entry := by
  cases dead with
  | file here bad => exact ⟨_, here, useless_file _ bad⟩
  | link here leads => exact ⟨_, here, useless_link _ _⟩

theorem not_mem_root (dead : ∀ place ∈ gone, DeadEnd files spoiled place) : [] ∉ gone := by
  intro mem
  obtain ⟨entry, here, solid, -⟩ := (dead [] mem).useless
  cases here
  exact solid rfl

/-- No walk goes on from what is no directory. -/
theorem eq_of_walk_from {links : Nat} {place reached : Location} {steps : List String} {entry : Entry}
    (here : files.lookup? place = some entry) (solid : entry ≠ .directory)
    (h : files.walk links place steps = .ok reached) : reached = place := by
  cases steps with
  | nil =>
    rw [walk_nil] at h
    exact (Except.ok.inj h).symm
  | cons step rest =>
    rw [walk_cons, advance, here] at h
    cases entry with
    | directory => exact absurd rfl solid
    | file | link => cases h

/-- The entry of a directory that a walk to a file takes: the file itself, or a link that leads to it. -/
theorem entry_of_walk {links : Nat} {place reached : Location} {name : String} {content : List UInt8}
    (named : name ≠ "." ∧ name ≠ "..") (h : files.walk links place [name] = .ok reached)
    (here : files.lookup? reached = some (.file content)) :
    reached = place ++ [name] ∧ files.lookup? (place ++ [name]) = some (.file content) ∨
      ∃ target left, files.lookup? (place ++ [name]) = some (.link target) ∧
        files.walk left (start (Path.ofText target) place) (Path.ofText target).parts = .ok reached := by
  rw [walk_cons] at h
  cases advanced : files.advance links place name with
  | error cause => rw [advanced] at h; cases h
  | ok stage =>
    rw [advanced] at h
    obtain ⟨-, below, leads, arrives⟩ := advance_eq_ok_iff.1 advanced
    obtain ⟨-, -, rfl⟩ := (onward_eq_ok_iff named).1 leads
    cases found : files.link? place name with
    | none =>
      rw [found] at arrives
      cases arrives
      dsimp only at h
      rw [List.append_nil, walk_nil] at h
      cases h
      exact .inl ⟨rfl, here⟩
    | some target =>
      rw [found] at arrives
      cases links with
      | zero => cases arrives
      | succ links =>
        cases arrives
        dsimp only at h
        rw [List.append_nil] at h
        exact .inr ⟨target, links, (link?_eq_some_iff.1 found).2, h⟩

/-- Where a walk to an entry of a directory ends at a spoiled file, the entry is a dead end. -/
theorem deadEnd_of_walk {links : Nat} {place reached : Location} {name : String} {content : List UInt8}
    (named : name ≠ "." ∧ name ≠ "..") (h : files.walk links place [name] = .ok reached)
    (here : files.lookup? reached = some (.file content)) (bad : spoiled reached) :
    DeadEnd files spoiled (place ++ [name]) := by
  obtain ⟨same, file⟩ | ⟨target, left, link, led⟩ := entry_of_walk named h here
  · exact .file file (same ▸ bad)
  · refine .link link fun others other walked => ?_
    rw [List.dropLast_concat] at walked
    rw [walk_unique walked led]
    exact ⟨⟨content, here⟩, bad⟩

/-! ## Walks past what is gone -/

/-- A walk that is lost: it ended at nothing of use, and now it ends nowhere. -/
structure Lost (files : FileSystem) (gone : List Location) (spoiled : Location → Prop)
    (before after : Except Cause Location) : Prop where
  useless : ∀ reached entry, before = .ok reached → files.lookup? reached = some entry →
    Useless spoiled reached entry
  nowhere : after = .error .missing ∨ ∃ reached ∈ gone, after = .ok reached

/-- A walk that ends as before, at a place that is still there if it was. -/
def Stays (gone : List Location) (before after : Except Cause Location) : Prop :=
  after = before ∧ ∀ reached, before = .ok reached → reached ∉ gone

section

variable (dead : ∀ place ∈ gone, DeadEnd files spoiled place)
include dead

theorem walk_from_gone {place : Location} (mem : place ∈ gone) (links : Nat) (steps : List String) :
    (files.eraseAll gone).walk links place steps = .error .missing ∨
      ∃ reached ∈ gone, (files.eraseAll gone).walk links place steps = .ok reached := by
  cases steps with
  | nil => exact .inr ⟨place, mem, walk_nil links place⟩
  | cons step rest =>
    left
    rw [walk_cons, advance, lookup?_eraseAll files (not_mem_root dead), if_pos mem]

theorem lost_of_gone {place : Location} (mem : place ∈ gone) (links : Nat) (steps : List String) :
    Lost files gone spoiled (files.walk links place steps)
      ((files.eraseAll gone).walk links place steps) := by
  refine ⟨?_, walk_from_gone dead mem links steps⟩
  intro reached entry walked found
  obtain ⟨held, here, useless⟩ := (dead place mem).useless
  have stays := eq_of_walk_from here useless.1 walked
  subst stays
  rw [here] at found
  cases found
  exact useless

/-- A link that is followed is followed as before, unless it is gone. -/
theorem link?_eraseAll (place : Location) (step : String) :
    (files.eraseAll gone).link? place step =
      if place ++ [step] ∈ gone then none else files.link? place step := by
  unfold link?
  rw [lookup?_eraseAll files (not_mem_root dead)]
  by_cases mem : place ++ [step] ∈ gone
  · rw [if_pos mem, if_pos mem]
    exact ite_self none
  · rw [if_neg mem, if_neg mem]

/-- A step from a place that is still there goes as before, unless it went to one that is gone. -/
theorem advance_eraseAll {place : Location} (stays : place ∉ gone) (links : Nat) (step : String) :
    (files.eraseAll gone).advance links place step = files.advance links place step ∨
      place ++ [step] ∈ gone ∧
        (files.eraseAll gone).advance links place step = .ok { links, place := place ++ [step] } ∧
        ∃ target, files.lookup? (place ++ [step]) = some (.link target) ∧
          ∀ stage, files.advance links place step = .ok stage →
            ∃ left, stage = ⟨left, start (Path.ofText target) place, (Path.ofText target).parts⟩ := by
  have there : (files.eraseAll gone).lookup? place = files.lookup? place := by
    rw [lookup?_eraseAll files (not_mem_root dead), if_neg stays]
  by_cases directory : files.lookup? place = some .directory
  · rw [advance_eq directory, advance_eq (there.trans directory), onward_congr (obstacles_eraseAll files gone),
      link?_eraseAll dead]
    cases found : files.link? place step with
    | none => exact .inl (by rw [ite_self])
    | some target =>
      obtain ⟨named, link⟩ := link?_eq_some_iff.1 found
      by_cases mem : place ++ [step] ∈ gone
      · rw [if_pos mem]
        cases leads : files.onward place step with
        | error cause => exact .inl rfl
        | ok reached =>
          obtain ⟨-, -, rfl⟩ := (onward_eq_ok_iff named).1 leads
          refine .inr ⟨mem, rfl, target, link, fun stage arrives => ?_⟩
          cases links with
          | zero => cases arrives
          | succ links => exact ⟨links, (Except.ok.inj arrives).symm⟩
      · rw [if_neg mem]
        exact .inl rfl
  · left
    unfold advance
    rw [there]
    cases held : files.lookup? place with
    | none => rfl
    | some entry =>
      cases entry with
      | file | link => rfl
      | directory => exact absurd held directory

theorem walk_eraseAll (links : Nat) (place : Location) (steps : List String) :
    Stays gone (files.walk links place steps) ((files.eraseAll gone).walk links place steps) ∨
      Lost files gone spoiled (files.walk links place steps)
        ((files.eraseAll gone).walk links place steps) := by
  induction links, place, steps using walk_induction files with
  | done links place =>
    by_cases mem : place ∈ gone
    · exact .inr (lost_of_gone dead mem links [])
    · rw [walk_nil, walk_nil]
      exact .inl ⟨rfl, fun reached same => Except.ok.inj same ▸ mem⟩
  | goesOn links place step rest ih =>
    by_cases mem : place ∈ gone
    · exact .inr (lost_of_gone dead mem links (step :: rest))
    · rw [walk_cons files, walk_cons (files.eraseAll gone)]
      rcases advance_eraseAll dead mem links step with same | ⟨below, advanced, target, link, before⟩
      · rw [same]
        cases advanced : files.advance links place step with
        | error cause => exact .inl ⟨rfl, nofun⟩
        | ok stage => exact ih stage advanced
      · rw [advanced]
        refine .inr ⟨?_, walk_from_gone dead below links ([] ++ rest)⟩
        intro reached entry walked found
        cases reach : files.advance links place step with
        | error cause => rw [reach] at walked; cases walked
        | ok stage =>
          -- the link that is gone leads to a spoiled file, and there the walk is at its end
          rw [reach] at walked
          obtain ⟨left, rfl⟩ := before stage reach
          obtain ⟨budget, between, led, walked⟩ := exists_of_walk_append walked
          cases dead _ below with
          | file here => rw [link] at here; cases here
          | link here leads =>
            rw [link] at here
            cases here
            rw [List.dropLast_concat] at leads
            obtain ⟨⟨content, file⟩, bad⟩ := leads left between led
            have stays := eq_of_walk_from file nofun walked
            subst stays
            rw [file] at found
            cases found
            exact useless_file content bad

/-- A path leads where it led, to what stood there, unless that was of no use. -/
theorem locate_or_lost (path : Path) :
    Stays gone (files.locate path) ((files.eraseAll gone).locate path) ∨
      Lost files gone spoiled (files.locate path) ((files.eraseAll gone).locate path) := by
  unfold locate
  rw [here_eraseAll]
  cases checkText path.text with
  | error cause => exact .inl ⟨rfl, nofun⟩
  | ok => exact walk_eraseAll dead linkLimit (start path files.here) path.parts

/-- The path of a directory still leads to it. -/
theorem locate_eraseAll {path : Path} {place : Location} (located : files.locate path = .ok place)
    (directory : files.lookup? place = some .directory) :
    (files.eraseAll gone).locate path = .ok place := by
  rcases locate_or_lost dead path with stays | lost
  · exact stays.1.trans located
  · exact absurd rfl (lost.useless place .directory located directory).1

/-- What a path leads to is as before, or was of no use and is now missing. -/
theorem stat_eraseAll (path : Path) :
    (files.eraseAll gone).stat path = files.stat path ∨
      (files.eraseAll gone).stat path = .error .missing ∧
        ∀ reached entry, files.locate path = .ok reached → files.lookup? reached = some entry →
          Useless spoiled reached entry := by
  unfold stat
  rcases locate_or_lost dead path with ⟨same, stays⟩ | lost
  · rw [same]
    left
    cases located : files.locate path with
    | error cause => rfl
    | ok reached =>
      change (files.eraseAll gone).present reached = files.present reached
      unfold present
      rw [lookup?_eraseAll files (not_mem_root dead), if_neg (stays reached located)]
  · refine .inr ⟨?_, lost.useless⟩
    rcases lost.nowhere with nowhere | ⟨reached, mem, nowhere⟩ <;> rw [nowhere]
    · rfl
    · change (files.eraseAll gone).present reached = .error .missing
      unfold present
      rw [lookup?_eraseAll files (not_mem_root dead), if_pos mem]

theorem contentAt_eraseAll {place : Location} (stays : place ∉ gone) :
    (files.eraseAll gone).contentAt place = files.contentAt place := by
  unfold contentAt
  rw [lookup?_eraseAll files (not_mem_root dead), if_neg stays, meets_eraseAll, meets_eraseAll]

/-- What is read of a file that is not spoiled is what was read of it. -/
theorem read_eraseAll {path : Path} {reached : Location} {content : List UInt8}
    (located : files.locate path = .ok reached) (held : files.lookup? reached = some (.file content))
    (sound : ¬ spoiled reached) : (files.eraseAll gone).read path = files.read path := by
  rcases locate_or_lost dead path with ⟨same, stays⟩ | lost
  · rw [read_of_located located, read_of_located (same.trans located),
      contentAt_eraseAll dead (stays reached located)]
  · exact absurd ((lost.useless reached _ located held).2 ⟨content, rfl⟩) sound

end

end ViewModel.Files.FileSystem
