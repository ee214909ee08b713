import Mathlib.Data.List.Basic
import Mathlib.Logic.Function.Basic
import ViewModel.Proofs.Files.Listing
import ViewModel.Proofs.Schema.Textual
import ViewModel.Proofs.Tree.Document
import ViewModel.Schema.Directory

/-!
# Loading a directory

A structure file that cannot be read, decoded or parsed fails. It is logged, and the directory loads as if
it were not there. An entity declaration is the exception: it ends the loading.

* `withoutFailing`, `DropsFailing`: the directory without the files that fail, and what it means that a
  failing file drops only that file;
* `failureRecord_of_read`: what is logged of a file that cannot be read;
* `outcome_loadDirectory_of_entity`: an entity declaration ends the loading;
* `loads_loadDirectory`: without one the registry is that of the files that do not fail;
* `listFiles_withoutFailing`, `heldSource?_withoutFailing`: those files are found where they were once the
  others are gone.
-/

namespace ViewModel.Schema

open Files

/-- The file cannot be read, decoded or parsed. -/
def fails (files : FileSystem) (path : Path) : Bool :=
  Tree.ofFile files path matches .error _

/-- What ends the parsing of the file is the declaration of an entity. -/
def declaresEntity (files : FileSystem) (path : Path) : Bool :=
  Tree.ofFile files path matches .error (.document _ .entitiesDisabled)

/-- The source in a file that does not fail. -/
def heldSource? (files : FileSystem) (path : Path) : Option Source :=
  match Tree.ofFile files path with
  | .ok (rootTag, node) => some ⟨path.name, rootTag, node⟩
  | .error _ => none

/-- What is logged of a file that fails. -/
def failureRecord (files : FileSystem) (path : Path) : Record :=
  let reason := match Tree.ofFile files path with
    | .ok _ => ""
    | .error error => error.message
  ⟨.error, schemaLogger, "Error reading structure file " ++ path.name ++ ": " ++ reason⟩

/-- What is logged of a directory before its files are read. -/
def directoryRecord (directory : Path) : Record :=
  ⟨.info, schemaLogger, "Reading structures from: " ++ directory.text⟩

/-- The file system without the structure files of a directory that fail. -/
def withoutFailing (files : FileSystem) (directory : Path) : FileSystem :=
  match files.locate directory, files.listFiles directory structureSuffix with
  | .ok place, .ok paths =>
    files.eraseAll ((paths.filter (fails files)).map fun path => place ++ [path.name])
  | _, _ => files

/-- A failing file drops only that file. -/
structure DropsFailing (files : FileSystem) (directory : Path) : Prop where
  /-- Only a directory that is missing or unreadable is not loaded. -/
  raises : ∀ error, (loadDirectory files directory).outcome = .error error →
    files.isDirectory directory = .ok false ∧ error = .notFound directory ∨
      ∃ cause, files.list directory = .error cause ∧ error = .unreadable directory cause
  /-- The registry of a readable directory is that of the directory without the failing files, and so is the
  log, but for one record of each of them. -/
  loads : ∀ names, files.list directory = .ok names →
    ∃ paths registry records,
      files.listFiles directory structureSuffix = .ok paths ∧
      (loadDirectory files directory).outcome = .ok registry ∧
      (loadDirectory (withoutFailing files directory) directory).outcome = .ok registry ∧
      (loadDirectory files directory).records =
        directoryRecord directory :: ((paths.filter (fails files)).map (failureRecord files) ++ records) ∧
      (loadDirectory (withoutFailing files directory) directory).records =
        directoryRecord directory :: records

variable {files : FileSystem} {directory path : Path} {paths : List Path}

/-! ## One file -/

section

variable {others : FileSystem} (same : Tree.ofFile others path = Tree.ofFile files path)
include same

theorem fails_congr : fails others path = fails files path := by
  unfold fails
  rw [same]

theorem declaresEntity_congr : declaresEntity others path = declaresEntity files path := by
  unfold declaresEntity
  rw [same]

theorem heldSource?_congr : heldSource? others path = heldSource? files path := by
  unfold heldSource?
  rw [same]

end

theorem outcome_ofFile (h : declaresEntity files path = false) :
    (Source.ofFile files path).outcome = .ok (heldSource? files path) := by
  unfold declaresEntity at h
  unfold Source.ofFile heldSource?
  split <;> rename_i same <;> rw [same] at h ⊢
  · rfl
  · cases h
  · rfl

theorem records_ofFile (h : declaresEntity files path = false) :
    (Source.ofFile files path).records = if fails files path then [failureRecord files path] else [] := by
  unfold declaresEntity at h
  unfold Source.ofFile fails failureRecord
  split <;> rename_i same <;> rw [same] at h ⊢
  · rfl
  · cases h
  · rfl

theorem outcome_ofFile_of_entity (h : declaresEntity files path = true) :
    (Source.ofFile files path).outcome = .error .entitiesDisabled := by
  unfold declaresEntity at h
  unfold Source.ofFile
  split at h
  · rename_i same
    rw [same]
    rfl
  · cases h

/-- The tree in the content of a file of that name. -/
def treeIn (name : String) (content : List UInt8) : Except ReadError (String × Tree) := do
  let text ← (Text.Utf8.decode content).mapError .encoding
  (Tree.ofXml? text).mapError (.document name)

theorem ofFile_of_read {content : List UInt8} (h : files.read path = .ok content) :
    Tree.ofFile files path = treeIn path.name content := by
  rw [Tree.ofFile, h]
  rfl

theorem ofFile_of_read_error {error : Files.Error} (h : files.read path = .error error) :
    Tree.ofFile files path = .error (.access error) := by
  rw [Tree.ofFile, h]
  rfl

/-- A file that cannot be read fails, and what is logged of it tells why it cannot. -/
theorem failureRecord_of_read {error : Files.Error} (h : files.read path = .error error) :
    fails files path = true ∧ failureRecord files path =
      ⟨.error, schemaLogger, "Error reading structure file " ++ path.name ++ ": " ++ error.message⟩ := by
  unfold fails failureRecord
  rw [ofFile_of_read_error h]
  exact ⟨rfl, rfl⟩

/-- No tree is in the file at a place, under whatever name: its content cannot be read, decoded or parsed. -/
def Unparsable (files : FileSystem) (place : Location) : Prop :=
  ∀ content, files.contentAt place = .ok content → ∀ name, ∃ error, treeIn name content = .error error

/-- Whether content is that of a tree does not depend on the name of its file. -/
theorem exists_error_of_treeIn {name : String} {content : List UInt8} {error : ReadError}
    (failed : treeIn name content = .error error) (other : String) :
    ∃ error, treeIn other content = .error error := by
  unfold treeIn at failed ⊢
  cases decoded : Text.Utf8.decode content with
  | error fault => exact ⟨.encoding fault, rfl⟩
  | ok text =>
    rw [decoded] at failed
    change (Tree.ofXml? text).mapError (ReadError.document name) = _ at failed
    change ∃ error, (Tree.ofXml? text).mapError (ReadError.document other) = .error error
    cases parsed : Tree.ofXml? text with
    | error error => exact ⟨.document other error, rfl⟩
    | ok tree =>
      rw [parsed] at failed
      cases failed

theorem unparsable_iff {reached : Location} (located : files.locate path = .ok reached) :
    Unparsable files reached ↔ fails files path = true := by
  have read := FileSystem.read_of_located located
  unfold Unparsable
  cases held : files.contentAt reached with
  | error cause =>
    rw [held] at read
    exact iff_of_true nofun (failureRecord_of_read read).1
  | ok content =>
    rw [held] at read
    unfold fails
    rw [ofFile_of_read read]
    constructor
    · intro unparsable
      obtain ⟨error, failed⟩ := unparsable content rfl path.name
      rw [failed]
    · rintro failed _ ⟨⟩ name
      cases tree : treeIn path.name content with
      | ok tree' => rw [tree] at failed; cases failed
      | error error => exact exists_error_of_treeIn tree name

theorem textual_of_treeIn {name rootTag : String} {content : List UInt8} {node : Tree}
    (h : treeIn name content = .ok (rootTag, node)) : node.isTextual = true := by
  unfold treeIn at h
  cases decoded : Text.Utf8.decode content with
  | error fault => rw [decoded] at h; cases h
  | ok text =>
    rw [decoded] at h
    change (Tree.ofXml? text).mapError (ReadError.document name) = .ok (rootTag, node) at h
    cases parsed : Tree.ofXml? text with
    | error error => rw [parsed] at h; cases h
    | ok tree =>
      rw [parsed] at h
      cases h
      exact Tree.textual_of_ofXml? parsed

theorem textual_of_heldSource? {source : Source} (h : heldSource? files path = some source) :
    source.node.isTextual = true := by
  unfold heldSource? at h
  split at h
  · rename_i rootTag node parsed
    cases h
    cases held : files.read path with
    | error error => rw [ofFile_of_read_error held] at parsed; cases parsed
    | ok content =>
      rw [ofFile_of_read held] at parsed
      exact textual_of_treeIn parsed
  · cases h

/-! ## All files of a directory -/

theorem records_flatMap (entityFree : ∀ path ∈ paths, declaresEntity files path = false) :
    (paths.flatMap fun path => (Source.ofFile files path).records) =
      (paths.filter (fails files)).map (failureRecord files) := by
  induction paths with
  | nil => rfl
  | cons path rest ih =>
    obtain ⟨here, there⟩ := List.forall_mem_cons.1 entityFree
    rw [List.flatMap_cons, records_ofFile here, ih there, List.filter_cons]
    split <;> rfl

section

variable (listed : files.listFiles directory structureSuffix = .ok paths)
include listed

theorem outcome_readSources :
    (readSources files directory).outcome =
      (Attempt.outcome (paths.mapM (Source.ofFile files))).map fun sources => sources.filterMap id := by
  unfold readSources
  rw [FileSystem.isDirectory_of_listFiles listed, listed]
  change Attempt.outcome (paths.mapM (Source.ofFile files) >>= fun sources => pure (sources.filterMap id)) = _
  rw [Attempt.outcome_bind]
  rfl

theorem records_readSources {sources : List (Option Source)}
    (ended : Attempt.outcome (paths.mapM (Source.ofFile files)) = .ok sources) :
    (readSources files directory).records =
      directoryRecord directory :: Attempt.records (paths.mapM (Source.ofFile files)) := by
  unfold readSources
  rw [FileSystem.isDirectory_of_listFiles listed, listed]
  change directoryRecord directory ::
    Attempt.records (paths.mapM (Source.ofFile files) >>= fun sources => pure (sources.filterMap id)) = _
  rw [Attempt.records_bind_ok ended, Attempt.records_pure, List.append_nil]

/-- An entity declaration ends the loading. -/
theorem outcome_loadDirectory_of_entity (declares : ∃ path ∈ paths, declaresEntity files path = true) :
    (loadDirectory files directory).outcome = .error .entitiesDisabled := by
  have ended : (paths.mapM fun path => (Source.ofFile files path).outcome) = .error .entitiesDisabled := by
    refine Attempt.mapM_of_error (fun path _ => ?_) ?_
    · cases declared : declaresEntity files path with
      | false => exact .inl ⟨_, outcome_ofFile declared⟩
      | true => exact .inr (outcome_ofFile_of_entity declared)
    · obtain ⟨path, mem, declared⟩ := declares
      exact ⟨path, mem, outcome_ofFile_of_entity declared⟩
  rw [loadDirectory, Attempt.outcome_bind, outcome_readSources listed, Attempt.outcome_mapM, ended]
  rfl

/-- Without an entity declaration the directory loads: the registry is that of the sources held, and what
is logged of failing files comes before what is logged of those. -/
theorem loads_loadDirectory (entityFree : ∀ path ∈ paths, declaresEntity files path = false) :
    ∃ registry, (load (paths.filterMap (heldSource? files))).outcome = .ok registry ∧
      (loadDirectory files directory).outcome = .ok registry ∧
      (loadDirectory files directory).records =
        directoryRecord directory :: ((paths.filter (fails files)).map (failureRecord files) ++
          (load (paths.filterMap (heldSource? files))).records) := by
  have held : ∀ path ∈ paths, (Source.ofFile files path).outcome = .ok (heldSource? files path) :=
    fun path mem => outcome_ofFile (entityFree path mem)
  have read : Attempt.outcome (paths.mapM (Source.ofFile files)) = .ok (paths.map (heldSource? files)) :=
    (Attempt.outcome_mapM _ _).trans (Attempt.mapM_of_ok held)
  have sources : (readSources files directory).outcome = .ok (paths.filterMap (heldSource? files)) := by
    rw [outcome_readSources listed, read]
    change Except.ok ((paths.map (heldSource? files)).filterMap id) = _
    rw [List.filterMap_map, Function.id_comp]
  have textual : ∀ source ∈ paths.filterMap (heldSource? files), source.node.isTextual = true := by
    intro source mem
    obtain ⟨path, -, found⟩ := List.mem_filterMap.1 mem
    exact textual_of_heldSource? found
  obtain ⟨registry, loaded⟩ := load_of_textual textual
  refine ⟨registry, loaded, ?_, ?_⟩
  · rw [loadDirectory, Attempt.outcome_bind_ok sources, Attempt.outcome_adapt, loaded]
    rfl
  · rw [loadDirectory, Attempt.records_bind_ok sources, Attempt.records_adapt,
      records_readSources listed read, Attempt.records_mapM_of_ok held, records_flatMap entityFree,
      List.cons_append]

end

/-! ## The directory without the files that fail -/

section

variable {place : Location} (located : files.locate directory = .ok place)
  (listed : files.listFiles directory structureSuffix = .ok paths)
include located listed

theorem withoutFailing_eq :
    withoutFailing files directory =
      files.eraseAll ((paths.filter (fails files)).map fun path => place ++ [path.name]) := by
  rw [withoutFailing, located, listed]

theorem deadEnd_of_mem_failing :
    ∀ gone ∈ (paths.filter (fails files)).map (fun path => place ++ [path.name]),
      FileSystem.DeadEnd files (Unparsable files) gone := by
  intro gone mem
  obtain ⟨path, failing, rfl⟩ := List.mem_map.1 mem
  obtain ⟨mem, failed⟩ := List.mem_filter.1 failing
  exact FileSystem.deadEnd_of_mem listed (by decide) located mem fun _ found => (unparsable_iff found).2 failed

omit located in
theorem mem_failing_iff (mem : path ∈ paths) :
    place ++ [path.name] ∈ (paths.filter (fails files)).map (fun path => place ++ [path.name]) ↔
      fails files path = true := by
  constructor
  · intro gone
    obtain ⟨other, failing, same⟩ := List.mem_map.1 gone
    obtain ⟨inside, failed⟩ := List.mem_filter.1 failing
    have named : other.name = path.name := by simpa using same
    rwa [FileSystem.eq_child_of_mem listed mem, ← named, ← FileSystem.eq_child_of_mem listed inside]
  · exact fun failed => List.mem_map_of_mem (List.mem_filter.2 ⟨mem, failed⟩)

theorem listFiles_withoutFailing :
    (withoutFailing files directory).listFiles directory structureSuffix =
      .ok (paths.filter fun path => !fails files path) := by
  rw [withoutFailing_eq located listed, FileSystem.listFiles_eraseAll
    (deadEnd_of_mem_failing located listed) listed located]
  · refine congrArg Except.ok (List.filter_congr fun path mem => ?_)
    simp only [mem_failing_iff listed mem, decide_not, Bool.decide_eq_true]
  · intro path mem stays reached found unparsable
    exact stays ((mem_failing_iff listed mem).2 ((unparsable_iff found).1 unparsable))

theorem ofFile_withoutFailing (mem : path ∈ paths) (sound : fails files path = false) :
    Tree.ofFile (withoutFailing files directory) path = Tree.ofFile files path := by
  obtain ⟨reached, content, found, held⟩ := FileSystem.exists_of_mem listed mem
  have parsable : ¬ Unparsable files reached := by
    rw [unparsable_iff found, sound]
    exact Bool.false_ne_true
  have kept := FileSystem.read_eraseAll (deadEnd_of_mem_failing located listed) found held parsable
  rw [← withoutFailing_eq located listed] at kept
  rw [Tree.ofFile, kept, ← Tree.ofFile]

theorem heldSource?_withoutFailing :
    (paths.filter fun path => !fails files path).filterMap (heldSource? (withoutFailing files directory)) =
      paths.filterMap (heldSource? files) := by
  rw [List.filterMap_filter]
  refine List.filterMap_congr fun path mem => ?_
  cases failed : fails files path with
  | false => exact heldSource?_congr (ofFile_withoutFailing located listed mem failed)
  | true =>
    unfold fails at failed
    unfold heldSource?
    split at failed
    · rename_i same
      rw [same]
      rfl
    · cases failed

end

/-- The registry is that of the directory without the failing files, and so is the log, but for one record
of each of them. -/
theorem loads_withoutFailing (listed : files.listFiles directory structureSuffix = .ok paths)
    (entityFree : ∀ path ∈ paths, declaresEntity files path = false) :
    ∃ registry records,
      (loadDirectory files directory).outcome = .ok registry ∧
      (loadDirectory (withoutFailing files directory) directory).outcome = .ok registry ∧
      (loadDirectory files directory).records =
        directoryRecord directory :: ((paths.filter (fails files)).map (failureRecord files) ++ records) ∧
      (loadDirectory (withoutFailing files directory) directory).records =
        directoryRecord directory :: records := by
  obtain ⟨place, located, -⟩ := FileSystem.exists_of_listFiles listed
  have same : ∀ path ∈ paths.filter fun path => !fails files path,
      Tree.ofFile (withoutFailing files directory) path = Tree.ofFile files path := by
    intro path kept
    obtain ⟨mem, parsed⟩ := List.mem_filter.1 kept
    exact ofFile_withoutFailing located listed mem (by simpa using parsed)
  have entityFree' : ∀ path ∈ paths.filter fun path => !fails files path,
      declaresEntity (withoutFailing files directory) path = false := by
    intro path kept
    rw [declaresEntity_congr (same path kept)]
    exact entityFree path (List.mem_filter.1 kept).1
  have none : (paths.filter fun path => !fails files path).filter
      (fails (withoutFailing files directory)) = [] := by
    refine List.filter_eq_nil_iff.2 fun path kept => ?_
    rw [fails_congr (same path kept)]
    simpa using (List.mem_filter.1 kept).2
  obtain ⟨registry, loaded, outcome, records⟩ := loads_loadDirectory listed entityFree
  obtain ⟨registry', loaded', outcome', records'⟩ :=
    loads_loadDirectory (listFiles_withoutFailing located listed) entityFree'
  rw [heldSource?_withoutFailing located listed] at loaded' records'
  rw [none] at records'
  rw [loaded] at loaded'
  cases loaded'
  exact ⟨registry, _, outcome, outcome', records, records'⟩

/-! ## What ends the loading -/

theorem outcome_loadDirectory_of_untold {error : Files.Error}
    (untold : files.isDirectory directory = .error error) :
    (loadDirectory files directory).outcome = .error (.unreachable error) := by
  unfold loadDirectory readSources
  rw [untold]
  rfl

theorem outcome_loadDirectory_of_missing (missing : files.isDirectory directory = .ok false) :
    (loadDirectory files directory).outcome = .error (.notFound directory) := by
  unfold loadDirectory readSources
  rw [missing]
  rfl

theorem outcome_loadDirectory_of_unlisted {error : Files.Error}
    (found : files.isDirectory directory = .ok true)
    (unlisted : files.listFiles directory structureSuffix = .error error) :
    (loadDirectory files directory).outcome = .error (.unreadable directory error) := by
  unfold loadDirectory readSources
  rw [found, unlisted]
  rfl

/-- Of a directory that cannot be listed no files are. -/
theorem listFiles_of_list_error {error : Files.Error} (h : files.list directory = .error error) :
    files.listFiles directory structureSuffix = .error error := by
  rw [FileSystem.listFiles, h]
  rfl

/-- What stands in a directory whose files are listed can be told to be a file or none. -/
theorem told_of_listFiles (listed : files.listFiles directory structureSuffix = .ok paths) :
    ∃ names, files.list directory = .ok names ∧
      ∀ name ∈ names, ∀ error, files.isFile (directory.child name) ≠ .error error := by
  obtain ⟨place, located, there, answered, -⟩ := FileSystem.exists_of_listFiles listed
  refine ⟨_, FileSystem.list_of_located located there (FileSystem.readable_of_listFiles listed located), ?_⟩
  intro name mem error untold
  obtain ⟨answer, told⟩ := answered name mem
  rw [told] at untold
  cases untold

/-- A failing file drops only that file just if none declares an entity, and if it can be told whether the
path is a directory at all, and which of the directory's entries are files. -/
theorem dropsFailing_iff (files : FileSystem) (directory : Path) :
    DropsFailing files directory ↔
      (∀ error, files.isDirectory directory ≠ .error error) ∧
        (∀ names, files.list directory = .ok names →
          ∀ name ∈ names, ∀ error, files.isFile (directory.child name) ≠ .error error) ∧
        ∀ paths, files.listFiles directory structureSuffix = .ok paths →
          ∀ path ∈ paths, declaresEntity files path = false := by
  constructor
  · rintro ⟨raises, loads⟩
    refine ⟨?_, ?_, ?_⟩
    · intro error untold
      rcases raises _ (outcome_loadDirectory_of_untold untold) with ⟨-, same⟩ | ⟨cause, -, same⟩ <;>
        cases same
    · intro names listed
      obtain ⟨paths, -, -, files', -⟩ := loads names listed
      obtain ⟨names', listed', told⟩ := told_of_listFiles files'
      rw [listed] at listed'
      cases listed'
      exact told
    · intro paths listed path mem
      cases declared : declaresEntity files path with
      | false => rfl
      | true =>
        obtain ⟨names, whole, -⟩ := told_of_listFiles listed
        obtain ⟨-, registry, -, -, loaded, -⟩ := loads names whole
        rw [outcome_loadDirectory_of_entity listed ⟨path, mem, declared⟩] at loaded
        cases loaded
  · rintro ⟨found, told, entityFree⟩
    have listable (names : List String) (whole : files.list directory = .ok names) :
        ∃ paths, files.listFiles directory structureSuffix = .ok paths := by
      refine ⟨_, FileSystem.listFiles_of_list whole fun name mem => ?_⟩
      cases answer : files.isFile (directory.child name) with
      | error error => exact absurd answer (told names whole name mem error)
      | ok answer' => exact ⟨answer', rfl⟩
    refine ⟨fun error ended => ?_, fun names whole => ?_⟩
    · cases answer : files.isDirectory directory with
      | error cause => exact absurd answer (found cause)
      | ok answer' =>
        cases answer' with
        | false =>
          rw [outcome_loadDirectory_of_missing answer] at ended
          cases ended
          exact .inl ⟨rfl, rfl⟩
        | true =>
          cases whole : files.list directory with
          | error cause =>
            rw [outcome_loadDirectory_of_unlisted answer (listFiles_of_list_error whole)] at ended
            cases ended
            exact .inr ⟨cause, rfl, rfl⟩
          | ok names =>
            obtain ⟨paths, listed⟩ := listable names whole
            obtain ⟨registry, -, loaded, -⟩ := loads_loadDirectory listed (entityFree paths listed)
            rw [loaded] at ended
            cases ended
    · obtain ⟨paths, listed⟩ := listable names whole
      obtain ⟨registry, records, loaded⟩ := loads_withoutFailing listed (entityFree paths listed)
      exact ⟨paths, registry, records, listed, loaded⟩

/-! ## A directory with an entity declaration in it -/

def entityText : String := "<!DOCTYPE Class [<!ENTITY n \"Card\">]>\n<Class Name=\"Broken\"/>"

/-- A directory with that file and a good one in it. -/
def entityFiles : FileSystem :=
  { entries := [
      (["s"], .directory),
      (["s", "Broken.xml"], .file (Text.Utf8.encode entityText)),
      (["s", "Card.xml"], .file (Text.Utf8.encode "<Class Name=\"Card\"/>"))] }

theorem walk_entityFiles {name : String}
    (there : entityFiles.advance FileSystem.linkLimit ["s"] name =
      .ok { links := FileSystem.linkLimit, place := ["s", name] }) :
    entityFiles.walk FileSystem.linkLimit [] ["s", name] = .ok ["s", name] := by
  rw [FileSystem.walk_cons]
  change entityFiles.walk FileSystem.linkLimit ["s"] [name] = _
  rw [FileSystem.walk_cons, there]
  exact FileSystem.walk_nil _ _

theorem locate_entityFiles : entityFiles.locate ⟨"", ["s"]⟩ = .ok ["s"] := by
  change entityFiles.walk FileSystem.linkLimit [] ["s"] = _
  rw [FileSystem.walk_cons]
  exact FileSystem.walk_nil _ _

theorem read_broken : entityFiles.read ⟨"", ["s", "Broken.xml"]⟩ = .ok (Text.Utf8.encode entityText) := by
  have located : entityFiles.locate ⟨"", ["s", "Broken.xml"]⟩ = .ok ["s", "Broken.xml"] := walk_entityFiles rfl
  exact FileSystem.read_of_located located

theorem stat_broken : entityFiles.stat ⟨"", ["s", "Broken.xml"]⟩ =
    .ok (.file (Text.Utf8.encode entityText)) := by
  change entityFiles.walk FileSystem.linkLimit [] ["s", "Broken.xml"] >>= entityFiles.present = _
  rw [walk_entityFiles rfl]
  rfl

theorem stat_card : entityFiles.stat ⟨"", ["s", "Card.xml"]⟩ =
    .ok (.file (Text.Utf8.encode "<Class Name=\"Card\"/>")) := by
  change entityFiles.walk FileSystem.linkLimit [] ["s", "Card.xml"] >>= entityFiles.present = _
  rw [walk_entityFiles rfl]
  rfl

theorem listFiles_entityFiles :
    entityFiles.listFiles ⟨"", ["s"]⟩ structureSuffix =
      .ok [⟨"", ["s", "Broken.xml"]⟩, ⟨"", ["s", "Card.xml"]⟩] := by
  have children : entityFiles.children ["s"] = ["Broken.xml", "Card.xml"] :=
    List.mergeSort_of_pairwise (by decide)
  have broken : entityFiles.isFile ⟨"", ["s", "Broken.xml"]⟩ = .ok true := by
    rw [FileSystem.isFile, FileSystem.leadsTo, stat_broken]
  have card : entityFiles.isFile ⟨"", ["s", "Card.xml"]⟩ = .ok true := by
    rw [FileSystem.isFile, FileSystem.leadsTo, stat_card]
  have answered : ∀ name ∈ entityFiles.children ["s"],
      entityFiles.isFile (Path.child ⟨"", ["s"]⟩ name) = .ok true := by
    rw [children]
    exact List.forall_mem_cons.2 ⟨broken, List.forall_mem_cons.2 ⟨card, List.forall_mem_nil _⟩⟩
  rw [FileSystem.listFiles_of_list (FileSystem.list_of_located locate_entityFiles rfl rfl)
    fun name mem => ⟨true, answered name mem⟩, children, List.filter_eq_self.2]
  · rfl
  · rw [← children]
    intro name mem
    rw [FileSystem.lists, answered name mem]
    rw [children] at mem
    revert name
    decide

theorem declaresEntity_entityFiles : declaresEntity entityFiles ⟨"", ["s", "Broken.xml"]⟩ = true := by
  have decoded : Text.Utf8.decode (Text.Utf8.encode entityText) = .ok entityText :=
    Text.Utf8.decode_encode_of_ascii (by decide) (by decide)
  unfold declaresEntity
  rw [ofFile_of_read read_broken, treeIn, decoded]
  decide +kernel

/-- One file that declares an entity, and nothing is loaded. -/
theorem entity_declaration_ends_loading :
    (loadDirectory entityFiles ⟨"", ["s"]⟩).outcome = .error .entitiesDisabled ∧
      ¬ DropsFailing entityFiles ⟨"", ["s"]⟩ := by
  have ended := outcome_loadDirectory_of_entity listFiles_entityFiles
    ⟨_, List.mem_cons_self, declaresEntity_entityFiles⟩
  refine ⟨ended, fun drops => ?_⟩
  obtain ⟨names, whole, -⟩ := told_of_listFiles listFiles_entityFiles
  obtain ⟨-, registry, -, -, loaded, -⟩ := drops.loads names whole
  rw [ended] at loaded
  cases loaded

/-- The same directory, where the file with the declaration may not be read. -/
def lockedFiles : FileSystem := { entityFiles with obstacles := [(["s", "Broken.xml"], .unreadable)] }

/-- A file that may not be read is logged and left out, whatever is in it. -/
theorem locked_file_left_out :
    (Source.ofFile lockedFiles ⟨"", ["s", "Broken.xml"]⟩).outcome = .ok none ∧
      (Source.ofFile lockedFiles ⟨"", ["s", "Broken.xml"]⟩).records = [⟨.error, schemaLogger,
        "Error reading structure file Broken.xml: [Errno 13] Permission denied: 's/Broken.xml'"⟩] := by
  have located : lockedFiles.locate ⟨"", ["s", "Broken.xml"]⟩ = .ok ["s", "Broken.xml"] := by
    change lockedFiles.walk FileSystem.linkLimit [] ["s", "Broken.xml"] = _
    rw [FileSystem.walk_cons]
    change lockedFiles.walk FileSystem.linkLimit ["s"] ["Broken.xml"] = _
    rw [FileSystem.walk_cons]
    exact FileSystem.walk_nil _ _
  have denied : lockedFiles.read ⟨"", ["s", "Broken.xml"]⟩ = .error ⟨.denied, ⟨"", ["s", "Broken.xml"]⟩⟩ :=
    FileSystem.read_of_located located
  have silent : declaresEntity lockedFiles ⟨"", ["s", "Broken.xml"]⟩ = false := by
    rw [declaresEntity, ofFile_of_read_error denied]
  obtain ⟨failed, record⟩ := failureRecord_of_read denied
  rw [outcome_ofFile silent, records_ofFile silent, if_pos failed, record, heldSource?, ofFile_of_read_error denied]
  exact ⟨rfl, by decide +kernel⟩

end ViewModel.Schema
