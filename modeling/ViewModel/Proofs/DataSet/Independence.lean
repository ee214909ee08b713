import Mathlib.Data.List.Basic
import ViewModel.Proofs.DataSet.Batch
import ViewModel.Proofs.Literal.Totality

/-!
# Data sets are independent

A batch converts the data sets of a directory as if each of them was alone with the files that there were
at first, and a second batch finds and leaves what the first one left.

* `Setting`: a directory of data sets that can be listed, and one for modules that can be made;
* `Leaves`, `Independent`: what a batch leaves, and what it comes to;
* `listeningAll_independent`: batches are independent;
* `batches_meet_limits`: where a listing meets the limits of paths, or a directory is made in part, they are
  not.
-/

namespace ViewModel.DataSet

open Schema Files Literal

variable {σ : Type} {registry : Registry} {options : DataModule} {directory : Path} {files : FileSystem}

/-! ## Batches from a directory -/

/-- A directory of data sets and a directory for their modules, without links. The data sets can be listed,
also once the other directory is made, and it is made at once or nothing of it is. -/
structure Setting (files : FileSystem) (sets directory : Path) (paths : List Path) : Prop where
  distinct : files.Distinct
  here : files.lookup? files.here = some .directory
  unlinked : ∀ place target, files.lookup? place ≠ some (.link target)
  plain : ∀ entry ∈ files.entries, ∀ name ∈ entry.1, '/' ∉ name.toList
  proper : directory.Proper
  listed : files.listFiles sets suffix = .ok paths
  relisted : ∃ others, (files.makeDirectories directory).2.listFiles sets suffix = .ok others
  makeable : (files.makeDirectories directory).1 = .ok () ∨ (files.makeDirectories directory).2 = files

section

variable (registry options directory)

/-- What a batch leaves of a file system: the modules of its data sets, and no change that none of them
makes alone. -/
structure Leaves (files : FileSystem) (paths : List Path) (after : FileSystem) : Prop where
  module : ∀ path ∈ paths, ∀ target, (convert registry options directory path).outcome files = .ok target →
    ∃ content, after.Holds target content ∧
      ((convert registry options directory path).files files).Holds target content
  frame : ∀ place, after.lookup? place = files.lookup? place ∨
    ∃ path ∈ paths, after.lookup? place =
      ((convert registry options directory path).files files).lookup? place

end

namespace Setting

variable {sets : Path} {paths : List Path}

/-- The members of the listing: every data set of the directory. -/
theorem mem_iff (setting : Setting files sets directory paths) {path : Path} :
    path ∈ paths ↔ ∃ name, path = sets.child name ∧ path.suffix = suffix ∧ files.isFile path = .ok true := by
  obtain ⟨place, located, -⟩ := FileSystem.exists_of_listFiles setting.listed
  exact FileSystem.mem_listFiles_iff setting.listed located (by decide)
    fun name target => setting.unlinked (place ++ [name]) target

theorem data (setting : Setting files sets directory paths) {path : Path} (mem : path ∈ paths) :
    IsDataSet files path := by
  obtain ⟨name, rfl, suffixed, found⟩ := setting.mem_iff.1 mem
  refine ⟨found, suffixed ▸ Path.suffix_isSuffix _, ?_⟩
  obtain ⟨above, located, there, -⟩ := FileSystem.exists_of_listFiles setting.listed
  obtain ⟨place, content, leads, held⟩ := FileSystem.isFile_iff.1 found
  have named := Path.suffix_ne suffixed (by decide)
  rw [Path.name_child] at named ⊢
  obtain ⟨-, -, -, rfl⟩ := (FileSystem.locate_child_eq_ok_iff located there
    (setting.unlinked (above ++ [name])) named).1 leads
  exact setting.plain _ (FileSystem.mem_entries_of_lookup? held (by simp)) name (by simp)

section

variable {made : FileSystem} (setting : Setting files sets directory paths)
  (ensured : files.makeDirectories directory = (.ok (), made))

include setting ensured

theorem site : Site [] made directory :=
  site_of_made setting.proper setting.distinct setting.here
    (fun place target link => absurd link (setting.unlinked place target))
    (fun _ mem => absurd mem List.not_mem_nil) ensured

theorem step {done : List Path} {reached : FileSystem}
    (h : Reached registry options directory files made done reached) {path : Path} (mem : path ∈ paths) :
    ∃ after, ((convert registry options directory path).runOn reached).value =
        ((product registry options directory path made).map fun _ => modulePath directory path, after) ∧
      Reached registry options directory files made (path :: done) after :=
  h.step setting.proper setting.here ensured (setting.site ensured) (setting.data mem)

/-- A data set on its own. -/
theorem alone {path : Path} (mem : path ∈ paths) :
    (convert registry options directory path).outcome files =
        (product registry options directory path made).map (fun _ => modulePath directory path) ∧
      Reached registry options directory files made [path]
        ((convert registry options directory path).files files) := by
  obtain ⟨after, value, reached⟩ := setting.step ensured Reached.start mem
  rw [FileAction.outcome, FileAction.files, value]
  exact ⟨rfl, reached⟩

/-- Every module that is written is there. -/
theorem holds_module {done : List Path} {reached : FileSystem}
    (h : Reached registry options directory files made done reached) (within : ∀ path ∈ done, path ∈ paths)
    {path : Path} (mem : path ∈ done) {place : Location} {content : List UInt8}
    (added : product registry options directory path made = .ok (place, content)) :
    reached.Holds (modulePath directory path) content := by
  obtain ⟨text, known, located, -, -, -⟩ := product_eq_ok added
  have written := h.grown ⟨path, mem, text, known⟩
  have found := lookup_products (setting.site ensured)
    (fun path mem => (setting.data (within path mem)).of_adds (adds_of_made ensured))
    (fun path mem other mem' => eq_of_moduleName setting.listed (within path mem) (within other mem'))
    mem added
  exact ⟨place, written.locate_iff.2 located, written.lookup?_of_lookup found⟩

theorem leaves {after : FileSystem}
    (h : Reached registry options directory files made paths.reverse after) :
    Leaves registry options directory files paths after := by
  constructor
  · intro path mem target succeeded
    obtain ⟨outcome, reached⟩ := setting.alone ensured mem
    rw [outcome] at succeeded
    cases added : product registry options directory path made with
    | error error => rw [added] at succeeded; cases succeeded
    | ok write =>
      rw [added] at succeeded
      have same : modulePath directory path = target := Except.ok.inj succeeded
      subst same
      refine ⟨write.2, ?_, ?_⟩
      · exact setting.holds_module ensured h (fun _ => List.mem_reverse.1)
          (List.mem_reverse.2 mem) added
      · exact setting.holds_module ensured reached
          (List.forall_mem_singleton.2 mem) List.mem_cons_self added
  · intro place
    by_cases known : ∃ path ∈ paths.reverse, Known registry options path made
    · right
      have held := h.lookup? known place
      have own {path : Path} (mem : path ∈ paths) (found : Known registry options path made) :
          ((convert registry options directory path).files files).lookup? place =
            (((product registry options directory path made).toOption.toList.lookup place).map
              Entry.file).or (made.lookup? place) := by
        rw [(setting.alone ensured mem).2.lookup? ⟨path, List.mem_cons_self, found⟩, products,
          List.flatMap_singleton]
      cases wrote : (products registry options directory paths.reverse made).lookup place with
      | some content =>
        obtain ⟨path, mem, added⟩ := mem_products_iff.1 (FileSystem.mem_of_lookup wrote)
        obtain ⟨text, found, -⟩ := product_eq_ok added
        refine ⟨path, List.mem_reverse.1 mem, ?_⟩
        rw [held, wrote, own (List.mem_reverse.1 mem) ⟨text, found⟩, added]
        simp [Except.toOption]
      | none =>
        obtain ⟨path, mem, found⟩ := known
        refine ⟨path, List.mem_reverse.1 mem, ?_⟩
        rw [held, wrote, own (List.mem_reverse.1 mem) found]
        cases added : product registry options directory path made with
        | error error => rfl
        | ok write =>
          have apart := List.lookup_eq_none_iff.1 wrote write (mem_products_iff.2 ⟨path, mem, added⟩)
          have unheld : [write].lookup place = none :=
            List.lookup_eq_none_iff.2 (List.forall_mem_singleton.2 apart)
          change _ = (([write].lookup place).map Entry.file).or (made.lookup? place)
          rw [unheld]
    · left
      rw [h.still fun path mem found => known ⟨path, mem, found⟩]

/-- No module is listed among the data sets. -/
theorem listed_again {done : List Path} (within : ∀ path ∈ done, path ∈ paths) {after : FileSystem}
    (h : Reached registry options directory files made done after) :
    after.listFiles sets suffix = .ok paths := by
  by_cases known : ∃ path ∈ done, Known registry options path made
  · have adds := adds_of_made ensured
    have unlinked (place : Location) (target : String) : made.lookup? place ≠ some (.link target) :=
      fun link => setting.unlinked place target ((adds.keeps.link place target).1 link)
    obtain ⟨place, located, there, -⟩ := FileSystem.exists_of_listFiles setting.listed
    have located' := adds.keeps.locate located
    obtain ⟨others, listed⟩ := setting.relisted
    rw [ensured] at listed
    have same : others = paths := adds.listFiles_eq setting.listed listed setting.distinct located (by decide)
      fun name => setting.unlinked (place ++ [name])
    subst same
    refine (h.grown known).listFiles listed (adds.distinct setting.distinct) located' (by decide)
      (fun name => unlinked (place ++ [name])) fun name wrote => ?_
    obtain ⟨write, mem, same⟩ := List.mem_map.1 wrote
    obtain ⟨path, mem', added⟩ := mem_products_iff.1 mem
    have data := (setting.data (within path mem')).of_adds adds
    obtain ⟨-, -, leads, -, -, -⟩ := product_eq_ok added
    obtain ⟨above, held, -⟩ := FileSystem.isDirectory_iff.1 (setting.site ensured).there
    rw [(setting.site ensured).place_of_located data held leads] at same
    have named : moduleName path = name := List.singleton_inj.1 (List.append_inj' same (by simp)).2
    subst named
    constructor
    · intro suffixed
      have ends : EndsIn suffix ([] ++ [moduleName path]) := by
        refine endsIn_concat.2 ?_
        have ends := Path.suffix_isSuffix (sets.child (moduleName path))
        rwa [suffixed, Path.name_child] at ends
      exact not_endsIn_both (endsIn_moduleName path []) ends
    · obtain ⟨reached, content, found, -⟩ := FileSystem.isFile_iff.1 data.found
      exact ⟨_, locate_moduleName located' (adds.lookup? there) unlinked
        (FileSystem.eq_child_of_mem setting.listed (within path mem'))
        (FileSystem.isFile_of_mem setting.listed (within path mem')).2 found⟩
  · rw [h.still fun path mem found => known ⟨path, mem, found⟩]
    exact setting.listed

end

end Setting

/-! ## Runs -/

section

variable (registry options directory) (hear : σ → String → Bool → σ) (sets : Path) (name : Option String)

/-- The data sets of a directory are converted, and a listener hears of each. -/
def listeningAll : ExceptT SelectError (StateT σ FileStep) (List Outcome) :=
  convertFor registry options sets directory name fun file succeeded =>
    modify fun state => hear state file succeeded

variable {name} in
/-- What is heard of all data sets. -/
theorem heard_listeningAll (all : name.filter (· != "") = none) (state : σ) :
    heard (listeningAll registry options directory hear sets name).run state files =
      match files.listFiles sets suffix with
      | .error error => ((.error (.unreadable error), state), files)
      | .ok paths =>
        let later := heard (listening registry options directory hear paths) state files
        ((.ok later.1.1, later.1.2), later.2) := by
  have begun := value_begin sets directory name files
  rw [FileAction.runOn, select, all] at begun
  unfold listeningAll convertFor
  rw [ExceptT.run_bind, ExceptT.run_mk, heard_bind, heard_lift, begun]
  cases files.listFiles sets suffix <;> rfl

/-- What a batch comes to: every data set of the directory comes to what it comes to alone, and is counted
and listed with it. -/
structure Independent (files : FileSystem) (paths : List Path) (outcomes : List Outcome)
    (after : FileSystem) : Prop where
  members : ∀ path, path ∈ paths ↔
    ∃ name, path = sets.child name ∧ path.suffix = suffix ∧ files.isFile path = .ok true
  increasing : (paths.map Path.name).Pairwise (· < ·)
  alone : outcomes = paths.map fun path =>
    ⟨path.name, (convert registry options directory path).outcome files⟩
  leaves : Leaves registry options directory files paths after
  total : (Summary.ofOutcomes outcomes).total = paths.length
  counted : (Summary.ofOutcomes outcomes).total =
    (Summary.ofOutcomes outcomes).succeeded + (Summary.ofOutcomes outcomes).failed
  errors : (Summary.ofOutcomes outcomes).errors = paths.filterMap fun path =>
    match (convert registry options directory path).outcome files with
    | .ok _ => none
    | .error error => some (path.name, error.report)
  written : (Summary.ofOutcomes outcomes).written = paths.filterMap fun path =>
    match (convert registry options directory path).outcome files with
    | .ok target => some target.text
    | .error _ => none

end

theorem Setting.independent {sets : Path} {paths : List Path} (setting : Setting files sets directory paths)
    {after : FileSystem} (leaves : Leaves registry options directory files paths after) :
    Independent registry options directory sets files paths
      (paths.map fun path => ⟨path.name, (convert registry options directory path).outcome files⟩) after where
  members _ := setting.mem_iff
  increasing := FileSystem.increasing_listFiles setting.listed setting.distinct
  alone := rfl
  leaves := leaves
  total := List.length_map _
  counted := by rw [Nat.add_comm, Summary.failed_add_succeeded]
  errors := List.filterMap_map
  written := List.filterMap_map

/-- Where the conversions pass something on that makes each come to what it comes to alone, a batch and its
repetition do. -/
theorem Setting.heard_of_invariant {sets : Path} {paths : List Path} {name : Option String}
    (setting : Setting files sets directory paths) (all : name.filter (· != "") = none)
    {invariant : List Path → FileSystem → Prop}
    (step : ∀ done path reached, path ∈ paths → invariant done reached →
      (convert registry options directory path).outcome reached =
          (convert registry options directory path).outcome files ∧
        invariant (path :: done) ((convert registry options directory path).files reached))
    (start : invariant [] files)
    (listed : ∀ after, invariant paths.reverse after → after.listFiles sets suffix = .ok paths)
    (hear : σ → String → Bool → σ) (state : σ) :
    ∃ after, invariant paths.reverse after ∧
      heard (listeningAll registry options directory hear sets name).run state files =
        ((.ok (paths.map fun path => ⟨path.name, (convert registry options directory path).outcome files⟩),
          paths.foldl (fun state path =>
            hear state path.name ((convert registry options directory path).outcome files).isOk) state),
          after) ∧
      ∀ state, ∃ last, invariant (paths.reverse ++ paths.reverse) last ∧
        heard (listeningAll registry options directory hear sets name).run state after =
          ((.ok (paths.map fun path => ⟨path.name, (convert registry options directory path).outcome files⟩),
            paths.foldl (fun state path =>
              hear state path.name ((convert registry options directory path).outcome files).isOk) state),
            last) := by
  obtain ⟨after, ran, holds⟩ := heard_listening registry options directory hear step start state
  rw [List.append_nil] at holds
  refine ⟨after, holds, ?_, fun state => ?_⟩
  · rw [heard_listeningAll registry options directory hear sets all, setting.listed]
    dsimp only
    rw [ran]
  · obtain ⟨last, ran', holds'⟩ := heard_listening registry options directory hear step holds state
    refine ⟨last, holds', ?_⟩
    rw [heard_listeningAll registry options directory hear sets all, listed after holds]
    dsimp only
    rw [ran']

/-- A conversion that fails before it writes changes nothing. -/
theorem files_convert_of_unwritten {path : Path} {error : Error}
    (failed : (convert registry options directory path).outcome files = .error error)
    (unwritten : ∀ cause, error ≠ .writing cause) :
    (convert registry options directory path).files files = files := by
  have value := value_convert registry options directory path files
  rw [FileAction.outcome] at failed
  rw [FileAction.files]
  cases known : (readModule registry options path files).outcome with
  | error error' =>
    rw [known] at value
    rw [value]
  | ok text =>
    rw [known] at value
    rw [value] at failed
    dsimp only at failed
    split at failed
    · exact absurd (Except.error.inj failed).symm (unwritten _)
    · split at failed
      · exact absurd (Except.error.inj failed).symm (unwritten _)
      · cases failed

/-- A conversion without a directory changes nothing. -/
theorem files_convert_of_unmade {error : Files.Error} (ensured : files.makeDirectories directory = (.error error, files))
    (path : Path) :
    (convert registry options directory path).files files = files ∧
      ∀ target, (convert registry options directory path).outcome files ≠ .ok target := by
  rw [FileAction.outcome, FileAction.files, value_convert, ensured]
  cases (readModule registry options path files).outcome with
  | error error => exact ⟨rfl, nofun⟩
  | ok text => exact ⟨rfl, nofun⟩

/-- The data sets of a directory are converted independently: a batch comes to what its data sets come to
alone, its listener hears of each once, and a second batch comes to the same and changes no file. -/
theorem listeningAll_independent {sets : Path} {paths : List Path}
    (setting : Setting files sets directory paths) {name : Option String}
    (all : name.filter (· != "") = none) (hear : σ → String → Bool → σ) (state : σ) :
    ∃ outcomes after,
      heard (listeningAll registry options directory hear sets name).run state files =
        ((.ok outcomes, paths.foldl (fun state path =>
          hear state path.name ((convert registry options directory path).outcome files).isOk) state), after) ∧
      Independent registry options directory sets files paths outcomes after ∧
      (∀ state, ∃ last,
        heard (listeningAll registry options directory hear sets name).run state after =
          ((.ok outcomes, paths.foldl (fun state path =>
            hear state path.name ((convert registry options directory path).outcome files).isOk) state), last) ∧
        ∀ place, last.lookup? place = after.lookup? place) ∧
      ∀ path here error, (convert registry options directory path).outcome here = .error error →
        (∀ cause, error ≠ .writing cause) → (convert registry options directory path).files here = here := by
  rcases ensured : files.makeDirectories directory with ⟨result, made⟩
  cases result with
  | ok =>
    have step (done : List Path) (path : Path) (reached : FileSystem) (mem : path ∈ paths)
        (h : Reached registry options directory files made done reached) :
        (convert registry options directory path).outcome reached =
            (convert registry options directory path).outcome files ∧
          Reached registry options directory files made (path :: done)
            ((convert registry options directory path).files reached) := by
      obtain ⟨after, value, next⟩ := setting.step ensured h mem
      rw [(setting.alone ensured mem).1, FileAction.outcome, FileAction.files, value]
      exact ⟨rfl, next⟩
    obtain ⟨after, reached, ran, again⟩ := setting.heard_of_invariant all step Reached.start
      (fun after h => setting.listed_again ensured (fun _ => List.mem_reverse.1) h) hear state
    refine ⟨_, after, ran, setting.independent (setting.leaves ensured reached), fun state => ?_,
      fun path here error => files_convert_of_unwritten⟩
    obtain ⟨last, reached', ran'⟩ := again state
    exact ⟨last, ran', reached.lookup?_again reached'⟩
  | error error =>
    have unmade : made = files := by
      have makeable := setting.makeable
      rw [ensured] at makeable
      exact makeable.resolve_left nofun
    rw [unmade] at ensured
    have still (path : Path) : (convert registry options directory path).files files = files ∧
        ∀ target, (convert registry options directory path).outcome files ≠ .ok target :=
      files_convert_of_unmade ensured path
    have leaves : Leaves registry options directory files paths files :=
      ⟨fun path _ target succeeded => absurd succeeded ((still path).2 target), fun _ => .inl rfl⟩
    have step (done : List Path) (path : Path) (reached : FileSystem) (_ : path ∈ paths)
        (h : reached = files) :
        (convert registry options directory path).outcome reached =
            (convert registry options directory path).outcome files ∧
          (convert registry options directory path).files reached = files := by
      rw [h]
      exact ⟨rfl, (still path).1⟩
    obtain ⟨after, rfl, ran, again⟩ :=
      setting.heard_of_invariant all step rfl (fun _ h => h ▸ setting.listed) hear state
    refine ⟨_, after, ran, setting.independent leaves, fun state => ?_,
      fun path here error => files_convert_of_unwritten⟩
    obtain ⟨last, rfl, ran'⟩ := again state
    exact ⟨last, ran', fun _ => rfl⟩

/-! ## A shelf -/

/-- Every tree of a known type has a module. -/
theorem exists_render (options : DataModule) {registry : Registry} {typeName : String} {tree : Tree}
    (known : registry.lookup? typeName ≠ none) (textual : tree.isTextual = true) (sourceName : String) :
    ∃ text, (options.render registry sourceName typeName tree).outcome = .ok text := by
  obtain ⟨literal, encoded⟩ :=
    (Encoder.value_settles ⟨registry, options.indent, options.defaultFont⟩ textual known "").1
  cases found : registry.lookup? typeName with
  | none => exact absurd found known
  | some root =>
    have resolved : registry.resolve typeName = .ok root := by
      rw [Registry.resolve, found]
    unfold DataModule.render
    rw [resolved, Attempt.outcome_bind_ok rfl]
    exact ⟨_, Attempt.outcome_bind_ok encoded _⟩

def cardText : String := "<Card/>"

/-- A data set has a module if its text can be parsed and its root is of a known type. -/
theorem known_of_read {options : DataModule} {path : Path} {text tag : String}
    (held : files.read path = .ok (Text.Utf8.encode text))
    (decoded : Text.Utf8.decode (Text.Utf8.encode text) = .ok text)
    (parses : (Tree.ofXml? text).toOption.map (fun document => (document.1, document.2.isTextual)) =
      some (tag, true))
    (declared : registry.lookup? tag ≠ none) : Known registry options path files := by
  cases parsed : Tree.ofXml? text with
  | error error => rw [parsed] at parses; cases parses
  | ok document =>
    obtain ⟨tag, tree⟩ := document
    rw [parsed] at parses
    obtain ⟨rfl, textual⟩ := Prod.mk.inj (Option.some.inj parses)
    have read : Tree.ofFile files path = .ok (tag, tree) := by
      unfold Tree.ofFile
      rw [held]
      change (Text.Utf8.decode (Text.Utf8.encode text)).mapError ReadError.encoding >>= _ = _
      rw [decoded]
      change (Tree.ofXml? text).mapError (ReadError.document path.name) = _
      rw [parsed]
      rfl
    obtain ⟨text, rendered⟩ := exists_render options declared textual path.name
    refine ⟨text, ?_⟩
    unfold readModule
    rw [read, Attempt.outcome_bind_ok rfl]
    refine (Attempt.outcome_adapt _ _).trans ?_
    rw [rendered]
    rfl

theorem known_of_card {path : Path} (held : files.read path = .ok (Text.Utf8.encode cardText)) :
    Known Encoder.cardRegistry {} path files := by
  refine known_of_read held (Text.Utf8.decode_encode_of_ascii (by decide) (by decide))
    (by decide +kernel : _ = some ("Card", true)) ?_
  intro none
  cases none

def shelf : FileSystem :=
  { entries := [
      (["f"], .file []),
      (["s"], .directory),
      (["s", "A.xaml"], .file (Text.Utf8.encode cardText)),
      (["s", "B.xaml"], .file (Text.Utf8.encode cardText))] }

theorem unlinked_shelf (place : Location) (target : String) : shelf.lookup? place ≠ some (.link target) := by
  intro link
  by_cases top : place = []
  · rw [FileSystem.lookup?, if_pos top] at link
    cases link
  · have mem := FileSystem.mem_entries_of_lookup? link top
    simp [shelf] at mem

/-- The names of the data sets, and what they hold. -/
theorem held_shelf : ∀ name ∈ ["A.xaml", "B.xaml"],
    shelf.lookup? (["s"] ++ [name]) = some (.file (Text.Utf8.encode cardText)) :=
  List.forall_mem_cons.2 ⟨rfl, List.forall_mem_singleton.2 rfl⟩

theorem children_shelf : shelf.children ["s"] = ["A.xaml", "B.xaml"] :=
  List.mergeSort_of_pairwise (by decide)

/-- The way to the data sets that goes back and forth some times. -/
def windingSteps : Nat → List String
  | 0 => ["s"]
  | rounds + 1 => "s" :: ".." :: windingSteps rounds

def winding (rounds : Nat) : Path := ⟨"", windingSteps rounds⟩

theorem text_winding (rounds : Nat) : (winding (rounds + 1)).text = "s/../" ++ (winding rounds).text := by
  have starts : ∃ rest, windingSteps rounds = "s" :: rest := by
    cases rounds <;> exact ⟨_, rfl⟩
  obtain ⟨rest, steps⟩ := starts
  simp only [Path.text, winding, windingSteps, steps]
  rw [String.intercalate_cons_cons, String.intercalate_cons_cons]
  simp only [← String.append_assoc]
  rfl

/-- How long the way is. -/
theorem measure_winding (rounds : Nat) :
    (winding rounds).text.utf8ByteSize = 5 * rounds + 1 ∧ '\x00' ∉ (winding rounds).text.toList := by
  induction rounds with
  | zero => decide
  | succ rounds ih =>
    have step : "s/../".utf8ByteSize = 5 := by decide
    rw [text_winding, String.utf8ByteSize_append, String.toList_append, List.mem_append, not_or]
    exact ⟨by omega, by decide, ih.2⟩

theorem walk_winding (rounds links : Nat) : shelf.walk links [] (windingSteps rounds) = .ok ["s"] := by
  induction rounds with
  | zero =>
    rw [windingSteps, FileSystem.walk_cons]
    exact FileSystem.walk_nil _ _
  | succ rounds ih =>
    rw [windingSteps, FileSystem.walk_cons]
    change shelf.walk links ["s"] (".." :: windingSteps rounds) = _
    rw [FileSystem.walk_cons]
    exact ih

theorem locate_winding {rounds : Nat} (short : 5 * rounds + 1 ≤ FileSystem.pathLimit) :
    shelf.locate (winding rounds) = .ok ["s"] := by
  obtain ⟨size, zero⟩ := measure_winding rounds
  refine FileSystem.locate_eq_ok_iff.2 ⟨FileSystem.checkText_eq_ok_iff.2 ⟨zero, ?_⟩, walk_winding rounds _⟩
  rw [size]
  exact short

theorem measure_child (rounds : Nat) (name : String) :
    ((winding rounds).child name).text.utf8ByteSize = 5 * rounds + 2 + name.utf8ByteSize ∧
      ('\x00' ∉ name.toList → '\x00' ∉ ((winding rounds).child name).text.toList) := by
  obtain ⟨size, zero⟩ := measure_winding rounds
  have inside : (winding rounds).parts ≠ [] := by cases rounds <;> exact List.cons_ne_nil _ _
  have slash : "/".utf8ByteSize = 1 := by decide
  rw [FileSystem.text_child_of_ne_nil inside, String.utf8ByteSize_append, String.utf8ByteSize_append,
    String.toList_append, String.toList_append]
  refine ⟨by omega, fun plain => ?_⟩
  simp only [List.mem_append, not_or]
  exact ⟨⟨zero, by decide⟩, plain⟩

/-- From far away the data sets can be listed as long as the way to each is short enough. -/
theorem listFiles_winding {rounds : Nat} (short : 5 * rounds + 8 ≤ FileSystem.pathLimit) :
    shelf.listFiles (winding rounds) suffix =
      .ok [(winding rounds).child "A.xaml", (winding rounds).child "B.xaml"] := by
  have names : ∀ name ∈ ["A.xaml", "B.xaml"], name.utf8ByteSize = 6 ∧ '\x00' ∉ name.toList ∧
      String.ofList (Path.splitName name.toList).2 = suffix := by decide
  have held : ∀ name ∈ ["A.xaml", "B.xaml"], Path.suffix ((winding rounds).child name) = suffix ∧
      FileSystem.checkText ((winding rounds).child name).text = .ok () ∧
      name.utf8ByteSize ≤ FileSystem.nameLimit ∧
      ∃ content, shelf.lookup? (["s"] ++ [name]) = some (.file content) := by
    intro name mem
    obtain ⟨six, plain, suffixed⟩ := names name mem
    obtain ⟨size, zero⟩ := measure_child rounds name
    have limit : 6 ≤ FileSystem.nameLimit := by decide
    refine ⟨?_, FileSystem.checkText_eq_ok_iff.2 ⟨zero plain, by omega⟩, by omega, _, held_shelf name mem⟩
    rw [Path.suffix, Path.name_child, suffixed]
  rw [← children_shelf] at held
  rw [FileSystem.listFiles_of_files (locate_winding (by omega)) rfl rfl rfl
    (fun name => unlinked_shelf (["s"] ++ [name])) (by decide) held, children_shelf]
  rfl

/-- A way to a file, by a directory that is not there. -/
def astray : Path := ⟨"", ["x", "..", "f"]⟩

def madeShelf : FileSystem := shelf.put ["x"] .directory

theorem walk_shelf (rest : List String) (links : Nat) :
    shelf.walk links [] ("x" :: ".." :: rest) = .error .missing := by
  rw [FileSystem.walk_cons]
  change shelf.walk links ["x"] (".." :: rest) = _
  rw [FileSystem.walk_cons]
  rfl

theorem walk_madeShelf (rest : List String) (links : Nat) :
    madeShelf.walk links [] ("x" :: ".." :: rest) = madeShelf.walk links [] rest := by
  rw [FileSystem.walk_cons]
  change madeShelf.walk links ["x"] (".." :: rest) = _
  rw [FileSystem.walk_cons]
  rfl

theorem stat_astray : madeShelf.stat astray = .ok (.file []) := by
  change madeShelf.walk FileSystem.linkLimit [] ["x", "..", "f"] >>= madeShelf.present = _
  rw [walk_madeShelf, FileSystem.walk_cons]
  change madeShelf.walk FileSystem.linkLimit ["f"] [] >>= madeShelf.present = _
  rw [FileSystem.walk_nil]
  rfl

theorem stat_beyond : madeShelf.stat (astray.child "c") = .error .notDirectory := by
  change madeShelf.walk FileSystem.linkLimit [] ["x", "..", "f", "c"] >>= madeShelf.present = _
  rw [walk_madeShelf, FileSystem.walk_cons]
  change madeShelf.walk FileSystem.linkLimit ["f"] ["c"] >>= madeShelf.present = _
  rw [FileSystem.walk_cons]
  rfl

theorem ensureOne_astray : madeShelf.ensureOne astray = .error ⟨.occupied, astray⟩ := by
  have way : madeShelf.locateLink astray = .ok ["f"] := by
    change madeShelf.walk FileSystem.linkLimit [] ["x", ".."] >>= _ = _
    rw [walk_madeShelf, FileSystem.walk_nil]
    rfl
  have created : madeShelf.create astray .directory = .error ⟨.occupied, astray⟩ := by
    rw [FileSystem.create, way]
    rfl
  have absent : madeShelf.isDirectory astray = .ok false := by
    rw [FileSystem.isDirectory, FileSystem.leadsTo, stat_astray]
  rw [FileSystem.ensureOne, created]
  dsimp only
  rw [FileSystem.settle, absent]
  rfl

/-- The first time the way is followed as far as the file. -/
theorem makeDirectories_shelf :
    shelf.makeDirectories (astray.child "c") = (.error ⟨.occupied, astray⟩, madeShelf) := by
  have created (path : Path) (h : shelf.locateLink path = .error .missing) :
      shelf.create path .directory = .error ⟨.missing, path⟩ := by
    rw [FileSystem.create, h]
  have farthest : shelf.locateLink (astray.child "c") = .error .missing := by
    change shelf.walk FileSystem.linkLimit [] ["x", "..", "f"] >>= _ = _
    rw [walk_shelf]
    rfl
  have farther : shelf.locateLink astray = .error .missing := by
    change shelf.walk FileSystem.linkLimit [] ["x", ".."] >>= _ = _
    rw [walk_shelf]
    rfl
  have far : shelf.locateLink ⟨"", ["x", ".."]⟩ = .error .missing := by
    change shelf.walk FileSystem.linkLimit [] ["x"] >>= _ = _
    rw [FileSystem.walk_cons]
    change shelf.walk FileSystem.linkLimit ["x"] [] >>= _ = _
    rw [FileSystem.walk_nil]
    rfl
  have near : shelf.create ⟨"", ["x"]⟩ .directory = .ok madeShelf := by
    have way : shelf.locateLink ⟨"", ["x"]⟩ = .ok ["x"] := by
      change shelf.walk FileSystem.linkLimit [] [] >>= _ = _
      rw [FileSystem.walk_nil]
      rfl
    rw [FileSystem.create, way]
    rfl
  have back : madeShelf.ensureOne ⟨"", ["x", ".."]⟩ = .ok madeShelf := by
    have way : madeShelf.locateLink ⟨"", ["x", ".."]⟩ = .ok [] := by
      change madeShelf.walk FileSystem.linkLimit [] ["x"] >>= _ = _
      rw [FileSystem.walk_cons]
      change madeShelf.walk FileSystem.linkLimit ["x"] [] >>= _ = _
      rw [FileSystem.walk_nil]
      rfl
    have there : madeShelf.stat ⟨"", ["x", ".."]⟩ = .ok .directory := by
      change madeShelf.walk FileSystem.linkLimit [] ["x", ".."] >>= madeShelf.present = _
      rw [walk_madeShelf, FileSystem.walk_nil]
      rfl
    have again : madeShelf.create ⟨"", ["x", ".."]⟩ .directory = .error ⟨.occupied, ⟨"", ["x", ".."]⟩⟩ := by
      rw [FileSystem.create, way]
      rfl
    have stands : madeShelf.isDirectory ⟨"", ["x", ".."]⟩ = .ok true := by
      rw [FileSystem.isDirectory, FileSystem.leadsTo, there]
    rw [FileSystem.ensureOne, again]
    dsimp only
    rw [FileSystem.settle, stands]
    rfl
  have first : shelf.ensure "" ["x"] = (.ok (), madeShelf) := FileSystem.ensure_of_created near rfl
  have second : shelf.ensure "" ["..", "x"] = (.ok (), madeShelf) := by
    rw [FileSystem.ensure_of_missing (created _ far) rfl, first]
    dsimp only
    rw [back]
  have third : shelf.ensure "" ["f", "..", "x"] = (.error ⟨.occupied, astray⟩, madeShelf) := by
    rw [FileSystem.ensure_of_missing (created _ farther) rfl, second]
    dsimp only
    rw [ensureOne_astray]
  change shelf.ensure "" ["c", "f", "..", "x"] = _
  rw [FileSystem.ensure_of_missing (created _ farthest) rfl, third]

/-- The next time the file is met on the way. -/
theorem makeDirectories_madeShelf :
    madeShelf.makeDirectories (astray.child "c") = (.error ⟨.notDirectory, astray.child "c"⟩, madeShelf) := by
  have way : madeShelf.locateLink (astray.child "c") = .error .notDirectory := by
    change madeShelf.walk FileSystem.linkLimit [] ["x", "..", "f"] >>= _ = _
    rw [walk_madeShelf, FileSystem.walk_cons]
    change madeShelf.walk FileSystem.linkLimit ["f"] [] >>= _ = _
    rw [FileSystem.walk_nil]
    rfl
  have created : madeShelf.create (astray.child "c") .directory = .error ⟨.notDirectory, astray.child "c"⟩ := by
    rw [FileSystem.create, way]
  have absent : madeShelf.isDirectory (astray.child "c") = .ok false := by
    rw [FileSystem.isDirectory, FileSystem.leadsTo, stat_beyond]
    rfl
  change madeShelf.ensure "" ["c", "f", "..", "x"] = _
  exact FileSystem.ensure_of_failed created (by decide) absent rfl

theorem isDataSet_winding {rounds : Nat} (short : 5 * rounds + 8 ≤ FileSystem.pathLimit) {name : String}
    (mem : name ∈ ["A.xaml", "B.xaml"]) : IsDataSet shelf ((winding rounds).child name) := by
  have ends : ∀ name ∈ ["A.xaml", "B.xaml"], suffix.toList <:+ name.toList ∧ '/' ∉ name.toList := by decide
  have listed := FileSystem.isFile_of_mem (listFiles_winding short)
    (List.mem_map_of_mem (f := (winding rounds).child) mem)
  refine ⟨listed.1, ?_, ?_⟩ <;> rw [Path.name_child]
  · exact (ends name mem).1
  · exact (ends name mem).2

/-- The data sets have modules, whatever directories are added. -/
theorem known_winding {later : FileSystem} (adds : FileSystem.Adds shelf later) {rounds : Nat}
    (short : 5 * rounds + 8 ≤ FileSystem.pathLimit) {name : String} (mem : name ∈ ["A.xaml", "B.xaml"]) :
    Known Encoder.cardRegistry {} ((winding rounds).child name) later := by
  have data := isDataSet_winding short mem
  obtain ⟨place, content, located, -⟩ := FileSystem.isFile_iff.1 data.found
  have named := data.named
  rw [Path.name_child] at named
  have same := ((FileSystem.locate_child_eq_ok_iff (locate_winding (by omega)) rfl (unlinked_shelf _)
    named).1 located).2.2.2
  refine known_of_card (FileSystem.read_eq_ok_iff.2 ⟨place, adds.keeps.locate located,
    FileSystem.contentAt_eq_ok_iff.2 ⟨adds.lookup? ?_, ?_, ?_⟩⟩)
  · rw [same, held_shelf name mem]
  · exact FileSystem.meets_congr adds.obstacles _ _
  · exact FileSystem.meets_congr adds.obstacles _ _

/-- The data sets of the shelf, with their modules beside them. -/
theorem setting_shelf :
    Setting shelf (winding 0) (winding 0) [(winding 0).child "A.xaml", (winding 0).child "B.xaml"] := by
  have proper : (winding 0).Proper := ⟨.inl rfl, by decide⟩
  have there : shelf.isDirectory (winding 0) = .ok true :=
    FileSystem.isDirectory_iff.2 ⟨["s"], locate_winding (by decide), rfl⟩
  have made := FileSystem.makeDirectories_of_isDirectory proper.dotless there
  refine ⟨by unfold FileSystem.Distinct; decide, rfl, unlinked_shelf, by unfold shelf; decide, proper,
    listFiles_winding (by decide), ?_, ?_⟩ <;> rw [made]
  · exact ⟨_, listFiles_winding (by decide)⟩
  · exact .inl rfl

/-- Two data sets whose modules come to stand beside them, while a listener writes down what it hears. -/
theorem listeningAll_independent_shelf :
    Setting shelf (winding 0) (winding 0) [(winding 0).child "A.xaml", (winding 0).child "B.xaml"] ∧
      ∃ outcomes calls after,
        heard (listeningAll Encoder.cardRegistry {} (winding 0)
            (fun (calls : List (String × Bool)) file succeeded => calls ++ [(file, succeeded)])
            (winding 0) (some "")).run [] shelf = ((.ok outcomes, calls), after) ∧
          Independent Encoder.cardRegistry {} (winding 0) (winding 0) shelf
            [(winding 0).child "A.xaml", (winding 0).child "B.xaml"] outcomes after := by
  have all : (some "").filter (· != "") = none := rfl
  obtain ⟨outcomes, after, ran, independent, -⟩ :=
    listeningAll_independent setting_shelf all (fun calls file succeeded => calls ++ [(file, succeeded)]) []
  exact ⟨setting_shelf, outcomes, _, after, ran, independent⟩

/-- Nothing is listed from so far away that the way to a name is too long. -/
theorem unlisted_winding {later : FileSystem} (keeps : FileSystem.Keeps shelf later) (rounds : Nat)
    (name : String) (there : later.lookup? (["s"] ++ [name]) ≠ none) (plain : '\x00' ∉ name.toList)
    (short : 5 * rounds + 1 ≤ FileSystem.pathLimit)
    (long : FileSystem.pathLimit < 5 * rounds + 2 + name.utf8ByteSize) :
    ∃ error, later.listFiles (winding rounds) suffix = .error error := by
  have located := locate_winding short
  obtain ⟨size, zero⟩ := measure_child rounds name
  have failed : later.locate ((winding rounds).child name) = .error .nameTooLong := by
    rw [keeps.locate_child located rfl (unlinked_shelf _), FileSystem.locate_child located rfl (unlinked_shelf _),
      FileSystem.checkText_of_long (zero plain) (by omega)]
    rfl
  cases listed : later.listFiles (winding rounds) suffix with
  | error error => exact ⟨error, rfl⟩
  | ok paths =>
    exact absurd listed
      (FileSystem.listFiles_ne_ok (keeps.locate located) (FileSystem.mem_children_iff.2 there) failed)

def unheard : Unit → String → Bool → Unit := fun _ _ _ => ()

def generated : Path := ⟨"", ["s", "generated"]⟩

/-- A batch into that directory makes it. -/
theorem heard_generated (rounds : Nat) (short : 5 * rounds + 8 ≤ FileSystem.pathLimit) :
    ∃ outcomes after,
      heard (listening Encoder.cardRegistry {} generated unheard
          [(winding rounds).child "A.xaml", (winding rounds).child "B.xaml"]) () shelf = ((outcomes, ()), after) ∧
        FileSystem.Keeps shelf after ∧ after.lookup? (["s"] ++ ["generated"]) ≠ none := by
  have ensured : shelf.makeDirectories generated = (.ok (), shelf.put ["s", "generated"] .directory) := by
    have way : shelf.locateLink generated = .ok ["s", "generated"] := by
      change shelf.walk FileSystem.linkLimit [] ["s"] >>= _ = _
      rw [FileSystem.walk_cons]
      change shelf.walk FileSystem.linkLimit ["s"] [] >>= _ = _
      rw [FileSystem.walk_nil]
      rfl
    have created : shelf.create generated .directory = .ok (shelf.put ["s", "generated"] .directory) := by
      rw [FileSystem.create, way]
      rfl
    exact FileSystem.ensure_of_created created rfl
  have proper : generated.Proper := ⟨.inl rfl, by decide⟩
  have adds := adds_of_made ensured
  have site : Site [] (shelf.put ["s", "generated"] .directory) generated :=
    site_of_made proper (by unfold FileSystem.Distinct; decide) rfl
      (fun place target link => absurd link (unlinked_shelf place target))
      (fun _ mem => absurd mem List.not_mem_nil) ensured
  have data : ∀ path ∈ [(winding rounds).child "A.xaml", (winding rounds).child "B.xaml"], IsDataSet shelf path :=
    List.forall_mem_map.2 fun name mem => isDataSet_winding short mem
  have step (done : List Path) (path : Path) (reached : FileSystem)
      (mem : path ∈ [(winding rounds).child "A.xaml", (winding rounds).child "B.xaml"])
      (h : Reached Encoder.cardRegistry {} generated shelf (shelf.put ["s", "generated"] .directory) done reached) :
      (convert Encoder.cardRegistry {} generated path).outcome reached =
          (product Encoder.cardRegistry {} generated path (shelf.put ["s", "generated"] .directory)).map
            (fun _ => modulePath generated path) ∧
        Reached Encoder.cardRegistry {} generated shelf (shelf.put ["s", "generated"] .directory) (path :: done)
          ((convert Encoder.cardRegistry {} generated path).files reached) := by
    obtain ⟨after, value, next⟩ := h.step proper rfl ensured site (data path mem)
    rw [FileAction.outcome, FileAction.files, value]
    exact ⟨rfl, next⟩
  obtain ⟨after, ran, reached⟩ := heard_listening _ _ _ unheard step Reached.start ()
  have written := reached.grown ⟨_, by simp, known_winding adds short (by decide : "A.xaml" ∈ ["A.xaml", "B.xaml"])⟩
  have there := written.keeps.directory ["s", "generated"] rfl
  refine ⟨_, after, ran, adds.keeps.trans written.keeps, fun none => ?_⟩
  rw [List.singleton_append, there] at none
  cases none

/-- A directory for modules that can only be made in part: the second data set meets what the first one left. -/
theorem heard_astray :
    heard (listening Encoder.cardRegistry {} (astray.child "c") unheard
        [(winding 0).child "A.xaml", (winding 0).child "B.xaml"]) () shelf =
      (([⟨"A.xaml", .error (.writing ⟨.occupied, astray⟩)⟩,
        ⟨"B.xaml", .error (.writing ⟨.notDirectory, astray.child "c"⟩)⟩], ()), madeShelf) ∧
    (convert Encoder.cardRegistry {} (astray.child "c") ((winding 0).child "B.xaml")).outcome shelf =
      .error (.writing ⟨.occupied, astray⟩) := by
  have short : 5 * 0 + 8 ≤ FileSystem.pathLimit := by decide
  have adds : FileSystem.Adds shelf madeShelf := FileSystem.adds_put_directory rfl
  obtain ⟨_, known⟩ := known_winding (.refl shelf) short (by decide : "A.xaml" ∈ ["A.xaml", "B.xaml"])
  obtain ⟨_, known'⟩ := known_winding adds short (by decide : "B.xaml" ∈ ["A.xaml", "B.xaml"])
  obtain ⟨_, alone⟩ := known_winding (.refl shelf) short (by decide : "B.xaml" ∈ ["A.xaml", "B.xaml"])
  have first := value_convert_of_unmade known makeDirectories_shelf
  have second := value_convert_of_unmade known' makeDirectories_madeShelf
  constructor
  · rw [listening_cons, heard_bind, heard_listeningOne, FileAction.outcome, FileAction.files, first, heard_bind,
      listening_cons, heard_bind, heard_listeningOne, FileAction.outcome, FileAction.files, second]
    rfl
  · rw [FileAction.outcome, value_convert_of_unmade alone makeDirectories_shelf]

/-- A directory that can hardly be reached is not listed at all, one where the modules go cannot be listed
again, and a directory for modules that is made in part fails differently the next time. -/
theorem batches_meet_limits :
    (shelf.isDirectory (winding 818) = .ok true ∧ ∃ error,
      (heard (listeningAll Encoder.cardRegistry {} ⟨"", ["o"]⟩ unheard (winding 818) none).run () shelf).1.1 =
        .error error) ∧
    (∃ outcomes after error,
      heard (listeningAll Encoder.cardRegistry {} generated unheard (winding 817) none).run () shelf =
        ((.ok outcomes, ()), after) ∧
      (heard (listeningAll Encoder.cardRegistry {} generated unheard (winding 817) none).run ()
        after).1.1 = .error error) ∧
    ∃ outcomes after,
      heard (listeningAll Encoder.cardRegistry {} (astray.child "c") unheard (winding 0) none).run () shelf =
        ((.ok outcomes, ()), after) ∧
      outcomes ≠ [(winding 0).child "A.xaml", (winding 0).child "B.xaml"].map fun path =>
        ⟨path.name, (convert Encoder.cardRegistry {} (astray.child "c") path).outcome shelf⟩ := by
  refine ⟨⟨?_, ?_⟩, ?_, ?_⟩
  · exact FileSystem.isDirectory_iff.2 ⟨["s"], locate_winding (by decide), rfl⟩
  · obtain ⟨error, failed⟩ := unlisted_winding (FileSystem.Keeps.refl shelf) 818 "A.xaml"
      nofun (by decide) (by decide) (by decide)
    rw [heard_listeningAll _ _ _ _ _ rfl, failed]
    exact ⟨_, rfl⟩
  · obtain ⟨outcomes, after, ran, keeps, there⟩ := heard_generated 817 (by decide)
    obtain ⟨error, failed⟩ := unlisted_winding keeps 817 "generated" there (by decide) (by decide) (by decide)
    refine ⟨outcomes, after, .unreadable error, ?_, ?_⟩
    · rw [heard_listeningAll _ _ _ _ _ rfl, listFiles_winding (by decide)]
      dsimp only
      rw [ran]
    · rw [heard_listeningAll _ _ _ _ _ rfl, failed]
  · obtain ⟨ran, alone⟩ := heard_astray
    rw [heard_listeningAll _ _ _ _ _ rfl, listFiles_winding (by decide)]
    dsimp only
    rw [ran]
    refine ⟨_, _, rfl, fun same => ?_⟩
    have second := congrArg Outcome.result (List.cons.inj (List.cons.inj same).2).1
    dsimp only at second
    rw [alone] at second
    cases second

end ViewModel.DataSet
