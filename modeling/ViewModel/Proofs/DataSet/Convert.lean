import ViewModel.DataSet.Batch
import ViewModel.Proofs.Files.Endings
import ViewModel.Proofs.Files.Members
import ViewModel.Proofs.Log

/-!
# Converting one data set

A conversion reads the data set, makes the directory, and writes the module, in this order. It ends at the
first of the three that fails, so nothing is changed unless the module's text is known.

* `value_convert`: what a conversion comes to, without its records;
* `modulePath_eq`: the path of a module, a child of the directory;
-/

namespace ViewModel.Files.FileAction

variable {ε ε' α β : Type}

theorem value_runOn_bind (first : FileAction ε α) (next : α → FileAction ε β) (files : FileSystem) :
    ((first >>= next).runOn files).value =
      match (first.runOn files).value with
      | (.ok value, later) => ((next value).runOn later).value
      | (.error error, later) => (.error error, later) := by
  unfold runOn
  rw [ExceptT.run_bind, StateT.run_bind, Logged.bind_value]
  rcases ((ExceptT.run first).run files).value with ⟨result, later⟩
  cases result <;> rfl

theorem value_runOn_bind_ok {first : FileAction ε α} {value : α} {files later : FileSystem}
    (h : (first.runOn files).value = (.ok value, later)) (next : α → FileAction ε β) :
    ((first >>= next).runOn files).value = ((next value).runOn later).value := by
  rw [value_runOn_bind, h]

theorem value_runOn_bind_error {first : FileAction ε α} {error : ε} {files later : FileSystem}
    (h : (first.runOn files).value = (.error error, later)) (next : α → FileAction ε β) :
    ((first >>= next).runOn files).value = (.error error, later) := by
  rw [value_runOn_bind, h]

theorem value_runOn_record (level : Level) (logger message : String) (files : FileSystem) :
    ((record level logger message : FileAction ε Unit).runOn files).value = (.ok (), files) := rfl

theorem value_runOn_reading (look : FileSystem → Attempt ε α) (files : FileSystem) :
    ((reading look).runOn files).value = ((look files).outcome, files) := rfl

theorem value_runOn_changing (change : FileSystem → Except ε α × FileSystem) (files : FileSystem) :
    ((changing change).runOn files).value = change files := rfl

theorem value_runOn_ofAttempt (attempt : Attempt ε α) (files : FileSystem) :
    ((ofAttempt attempt).runOn files).value = (attempt.outcome, files) := rfl

theorem value_runOn_adapt (change : ε → ε') (action : FileAction ε α) (files : FileSystem) :
    (FileAction.runOn (action.adapt change) files).value =
      ((action.runOn files).value.1.mapError change, (action.runOn files).value.2) := rfl

end ViewModel.Files.FileAction

namespace ViewModel.DataSet

open Schema Files Literal

variable (registry : Registry) (options : DataModule)

theorem value_convert (directory path : Path) (files : FileSystem) :
    ((convert registry options directory path).runOn files).value =
      match (readModule registry options path files).outcome with
      | .error error => (.error error, files)
      | .ok text =>
        match files.makeDirectories directory with
        | (.error error, made) => (.error (.writing error), made)
        | (.ok (), made) =>
          match made.write (modulePath directory path) (Text.Utf8.encode text) with
          | .error error => (.error (.writing error), made)
          | .ok written => (.ok (modulePath directory path), written) := by
  unfold convert
  rw [FileAction.value_runOn_bind_ok (FileAction.value_runOn_record _ _ _ files)]
  have read := FileAction.value_runOn_reading (readModule registry options path) files
  cases known : (readModule registry options path files).outcome with
  | error error =>
    rw [known] at read
    exact FileAction.value_runOn_bind_error read _
  | ok text =>
    rw [known] at read
    rw [FileAction.value_runOn_bind_ok read]
    have made := FileAction.value_runOn_adapt Error.writing (FileAction.makeDirectories directory) files
    rw [FileAction.makeDirectories, FileAction.value_runOn_changing] at made
    rcases ensured : files.makeDirectories directory with ⟨result, later⟩
    rw [ensured] at made
    cases result with
    | error error => exact FileAction.value_runOn_bind_error made _
    | ok =>
      rw [FileAction.makeDirectories, FileAction.value_runOn_bind_ok made]
      dsimp only
      rw [FileAction.value_runOn_bind_ok (FileAction.value_runOn_record _ _ _ later)]
      have wrote := FileAction.value_runOn_adapt Error.writing
        (FileAction.writeText (modulePath directory path) text) later
      rw [FileAction.writeText, FileAction.value_runOn_changing] at wrote
      cases written : later.write (modulePath directory path) (Text.Utf8.encode text) with
      | error error =>
        rw [written] at wrote
        exact FileAction.value_runOn_bind_error wrote _
      | ok written' =>
        rw [written] at wrote
        exact FileAction.value_runOn_bind_ok wrote _

variable {registry options} in
/-- A conversion ends where its directory cannot be made. -/
theorem value_convert_of_unmade {directory path : Path} {files made : FileSystem} {text : String}
    {error : Files.Error} (known : (readModule registry options path files).outcome = .ok text)
    (ensured : files.makeDirectories directory = (.error error, made)) :
    ((convert registry options directory path).runOn files).value = (.error (.writing error), made) := by
  rw [value_convert, known, ensured]

/-! ## Modules beside data sets -/

/-- No link has the name of a module or of a data set. -/
def Direct (files : FileSystem) : Prop :=
  ∀ place target, files.lookup? place = some (.link target) →
    ¬ EndsIn TypesModule.moduleSuffix place ∧ ¬ EndsIn suffix place

theorem not_endsIn_both {place : Location} (module : EndsIn TypesModule.moduleSuffix place) :
    ¬ EndsIn suffix place := by
  intro dataSet
  exact absurd (last_eq_of_endsIn module dataSet (c := 's') (d := 'l') (by decide) (by decide)) (by decide)

/-- A path of a file that has the name of a data set. -/
structure IsDataSet (files : FileSystem) (path : Path) : Prop where
  found : files.isFile path = .ok true
  ends : suffix.toList <:+ path.name.toList
  plain : '/' ∉ path.name.toList

/-- Where modules are written: into a directory that is there, while no link is in the way and no file
changes freely that has the name of a module or of a data set. -/
structure Site (free : List Location) (base : FileSystem) (directory : Path) : Prop where
  proper : directory.Proper
  there : base.isDirectory directory = .ok true
  distinct : base.Distinct
  direct : Direct base
  loose : ∀ place ∈ free, ¬ EndsIn TypesModule.moduleSuffix place ∧ ¬ EndsIn suffix place

/-- What is left of a base after modules were written. -/
structure Written (free : List Location) (base : FileSystem) (writes : List (Location × List UInt8))
    (later : FileSystem) : Prop extends FileSystem.Overlaid free base writes later where
  modules : ∀ write ∈ writes, EndsIn TypesModule.moduleSuffix write.1

variable {free : List Location} {base later : FileSystem} {writes : List (Location × List UInt8)}
  {directory path : Path}

/-- A name with the ending of a data set is the last step of a path. -/
theorem getLast?_of_ends (ends : suffix.toList <:+ path.name.toList) : path.parts.getLast? = some path.name := by
  rw [Path.name] at ends ⊢
  cases last : path.parts.getLast? with
  | some name => rfl
  | none =>
    rw [last] at ends
    exact absurd (List.suffix_nil.1 ends) (by decide)

theorem named_of_ends (ends : suffix.toList <:+ path.name.toList) : path.name ≠ "." ∧ path.name ≠ ".." := by
  constructor <;> intro same <;> rw [same] at ends <;> exact absurd ends (by decide)

namespace IsDataSet

theorem last (data : IsDataSet base path) : path.parts.getLast? = some path.name := getLast?_of_ends data.ends

theorem named (data : IsDataSet base path) : path.name ≠ "." ∧ path.name ≠ ".." := named_of_ends data.ends

/-- The place of a data set has its name. -/
theorem endsIn (data : IsDataSet base path) (direct : Direct base) {place : Location}
    (located : base.locate path = .ok place) : EndsIn suffix place := by
  obtain ⟨above, rfl⟩ := FileSystem.place_of_locate data.last data.named
    (fun above target link => (direct _ target link).2 (endsIn_concat.2 data.ends)) located
  exact endsIn_concat.2 data.ends

end IsDataSet

def moduleName (path : Path) : String := path.stem ++ TypesModule.moduleSuffix

theorem endsIn_moduleName (path : Path) (above : Location) :
    EndsIn TypesModule.moduleSuffix (above ++ [moduleName path]) := by
  refine endsIn_concat.2 ?_
  rw [moduleName, String.toList_append]
  exact List.suffix_append _ _

theorem moduleName_named (path : Path) : moduleName path ≠ "." ∧ moduleName path ≠ ".." := by
  have ends := endsIn_concat.1 (endsIn_moduleName path [])
  constructor <;> intro same <;> rw [same] at ends <;> exact absurd ends (by decide)

/-- The path of a module is that of a child of the directory. -/
theorem modulePath_eq (plain : '/' ∉ path.name.toList) :
    modulePath directory path = directory.child (moduleName path) := by
  refine Path.join_eq_child directory ?_ ?_
  · rw [← Path.stem_append_suffix, String.toList_append, List.mem_append, not_or] at plain
    rw [String.toList_append, List.mem_append, not_or]
    exact ⟨plain.1, by decide⟩
  · rw [String.toList_append]
    cases path.stem.toList with
    | nil => decide
    | cons c rest => simp [Path.isStep, TypesModule.moduleSuffix]

theorem readModule_congr (h : later.read path = base.read path) :
    readModule registry options path later = readModule registry options path base := by
  unfold readModule Tree.ofFile
  rw [h]

/-- The module of a data set and its place in a directory that is there, or why it has none. -/
def product (registry : Registry) (options : DataModule) (directory path : Path) (files : FileSystem) :
    Except Error (Location × List UInt8) :=
  match (readModule registry options path files).outcome with
  | .error error => .error error
  | .ok text =>
    match files.locate (modulePath directory path) with
    | .error cause => .error (.writing ⟨cause, modulePath directory path⟩)
    | .ok place =>
      if files.lookup? place = some .directory then
        .error (.writing ⟨.isDirectory, modulePath directory path⟩)
      else if files.permitsWriting place then .ok (place, Text.Utf8.encode text)
      else .error (.writing ⟨.denied, modulePath directory path⟩)

variable {registry options} in
theorem product_eq_ok {place : Location} {content : List UInt8}
    (h : product registry options directory path base = .ok (place, content)) :
    ∃ text, (readModule registry options path base).outcome = .ok text ∧
      base.locate (modulePath directory path) = .ok place ∧ base.lookup? place ≠ some .directory ∧
      base.permitsWriting place = true ∧ content = Text.Utf8.encode text := by
  unfold product at h
  cases known : (readModule registry options path base).outcome with
  | error error => rw [known] at h; cases h
  | ok text =>
    rw [known] at h
    cases located : base.locate (modulePath directory path) with
    | error cause => rw [located] at h; cases h
    | ok target =>
      rw [located] at h
      dsimp only at h
      by_cases solid : base.lookup? target = some .directory
      · rw [if_pos solid] at h
        cases h
      · rw [if_neg solid] at h
        by_cases permitted : base.permitsWriting target
        · rw [if_pos permitted] at h
          cases h
          exact ⟨text, rfl, rfl, solid, permitted, rfl⟩
        · rw [if_neg permitted] at h
          cases h

/-- A module has a place of its own in the directory, right under its name. -/
theorem Site.place_of_located (site : Site free base directory) (data : IsDataSet base path)
    {above place : Location} (held : base.locate directory = .ok above)
    (located : base.locate (modulePath directory path) = .ok place) : place = above ++ [moduleName path] := by
  obtain ⟨above', held', there⟩ := FileSystem.isDirectory_iff.1 site.there
  rw [held] at held'
  cases held'
  rw [modulePath_eq data.plain] at located
  exact ((FileSystem.locate_child_eq_ok_iff held there (fun target link =>
    (site.direct _ target link).1 (endsIn_moduleName path above)) (moduleName_named path)).1 located).2.2.2

theorem Site.endsIn_product (site : Site free base directory) (data : IsDataSet base path)
    {place : Location} (located : base.locate (modulePath directory path) = .ok place) :
    EndsIn TypesModule.moduleSuffix place := by
  obtain ⟨above, held, -⟩ := FileSystem.isDirectory_iff.1 site.there
  rw [site.place_of_located data held located]
  exact endsIn_moduleName path above

namespace Written

/-- No module is written over a data set. -/
theorem readModule_eq (written : Written free base writes later) (site : Site free base directory)
    (data : IsDataSet base path) :
    readModule registry options path later = readModule registry options path base := by
  obtain ⟨place, content, located, held⟩ := FileSystem.isFile_iff.1 data.found
  have ends := data.endsIn site.direct located
  have fixed : place ∉ free := fun mem => (site.loose place mem).2 ends
  have unwritten : place ∉ writes.map Prod.fst := by
    intro mem
    obtain ⟨write, wrote, rfl⟩ := List.mem_map.1 mem
    exact not_endsIn_both (written.modules write wrote) ends
  refine readModule_congr registry options ?_
  exact FileSystem.read_congr located (written.locate_iff.2 located)
    (written.lookup?_of_not_mem fixed unwritten) written.obstacles

/-- Beside other modules a conversion comes to what it comes to in the base, and adds its module. -/
theorem value_convert (written : Written free base writes later) (site : Site free base directory)
    (data : IsDataSet base path) :
    ((convert registry options directory path).runOn later).value =
      match product registry options directory path base with
      | .error error => (.error error, later)
      | .ok (place, content) => (.ok (modulePath directory path), later.put place (.file content)) := by
  have there := written.keeps.isDirectory site.there
  rw [DataSet.value_convert, written.readModule_eq registry options site data]
  unfold product
  cases (readModule registry options path base).outcome with
  | error error => rfl
  | ok text =>
    rw [FileSystem.makeDirectories_of_isDirectory site.proper.dotless there]
    dsimp only
    obtain ⟨place, located, directory'⟩ := FileSystem.isDirectory_iff.1 site.there
    have same : later.locate (modulePath directory path) = base.locate (modulePath directory path) := by
      rw [modulePath_eq data.plain]
      exact written.keeps.locate_child located directory' fun target link =>
        (site.direct _ target link).1 (endsIn_moduleName path place)
    cases leads : base.locate (modulePath directory path) with
    | error cause => rw [FileSystem.write, same, leads]
    | ok target =>
      dsimp only
      by_cases solid : base.lookup? target = some .directory
      · rw [if_pos solid, FileSystem.write, same, leads]
        dsimp only
        rw [written.keeps.directory target solid]
      · have solid' : later.lookup? target ≠ some .directory := mt (written.kept.directory target) solid
        rw [if_neg solid, FileSystem.write_of_located (same.trans leads) solid', written.permitsWriting_eq]
        cases base.permitsWriting target <;> rfl

/-- The module that is added is one more. -/
theorem put (written : Written free base writes later) (site : Site free base directory)
    (data : IsDataSet base path) {place : Location} {content : List UInt8}
    (added : product registry options directory path base = .ok (place, content)) :
    Written free base ((place, content) :: writes) (later.put place (.file content)) := by
  obtain ⟨text, -, located, solid, permitted, -⟩ := product_eq_ok added
  have ends := site.endsIn_product data located
  refine ⟨written.toOverlaid.put (fun mem => (site.loose place mem).1 ends) solid ?_ permitted content, ?_⟩
  · exact fun target link => (site.direct place target link).1 ends
  · exact List.forall_mem_cons.2 ⟨ends, written.modules⟩

/-- What a conversion comes to, and the module that it adds if there is one. -/
theorem step (written : Written free base writes later) (site : Site free base directory)
    (data : IsDataSet base path) :
    ∃ after, ((convert registry options directory path).runOn later).value =
        ((product registry options directory path base).map fun _ => modulePath directory path, after) ∧
      Written free base ((product registry options directory path base).toOption.toList ++ writes) after := by
  have value := written.value_convert registry options site data
  cases added : product registry options directory path base with
  | error error =>
    rw [added] at value
    exact ⟨later, value, written⟩
  | ok write =>
    rw [added] at value
    exact ⟨later.put write.1 (.file write.2), value, written.put registry options site data added⟩

end Written

/-! ## Before the directory is there -/

section

variable {files made : FileSystem}

theorem adds_of_made {result : Except Files.Error Unit}
    (ensured : files.makeDirectories directory = (result, made)) : FileSystem.Adds files made := by
  have adds := FileSystem.adds_makeDirectories files directory
  rwa [ensured] at adds

/-- A directory that was made is a place for modules. -/
theorem site_of_made (proper : directory.Proper) (distinct : files.Distinct)
    (here : files.lookup? files.here = some .directory) (direct : Direct files)
    (loose : ∀ place ∈ free, ¬ EndsIn TypesModule.moduleSuffix place ∧ ¬ EndsIn suffix place)
    (ensured : files.makeDirectories directory = (.ok (), made)) : Site free made directory := by
  have adds := adds_of_made ensured
  refine ⟨proper, FileSystem.isDirectory_of_makeDirectories proper here ensured, adds.distinct distinct, ?_,
    loose⟩
  exact fun place target link => direct place target ((adds.keeps.link place target).1 link)

/-- Data sets stay as they are while directories are added. -/
theorem IsDataSet.of_adds (data : IsDataSet files path) (adds : FileSystem.Adds files made) :
    IsDataSet made path := by
  obtain ⟨place, content, located, held⟩ := FileSystem.isFile_iff.1 data.found
  have found := FileSystem.isFile_iff.2 ⟨place, content, adds.keeps.locate located, adds.lookup? held⟩
  exact ⟨found, data.ends, data.plain⟩

theorem IsDataSet.readModule_eq (data : IsDataSet files path) (adds : FileSystem.Adds files made) :
    readModule registry options path made = readModule registry options path files := by
  obtain ⟨place, content, located, held⟩ := FileSystem.isFile_iff.1 data.found
  refine readModule_congr registry options
    (FileSystem.read_congr located (adds.keeps.locate located) ?_ adds.obstacles)
  rw [held, adds.lookup? held]

/-- A conversion that makes the directory goes on as if the directory was there. -/
theorem value_convert_of_made (proper : directory.Proper) (here : files.lookup? files.here = some .directory)
    (ensured : files.makeDirectories directory = (.ok (), made)) (data : IsDataSet files path) :
    ((convert registry options directory path).runOn files).value =
      match (readModule registry options path files).outcome with
      | .error error => (.error error, files)
      | .ok _ => ((convert registry options directory path).runOn made).value := by
  have there := FileSystem.isDirectory_of_makeDirectories proper here ensured
  have settled := FileSystem.makeDirectories_of_isDirectory proper.dotless there
  rw [value_convert, value_convert, data.readModule_eq registry options (adds_of_made ensured),
    ensured, settled]
  cases (readModule registry options path files).outcome <;> rfl

end

end ViewModel.DataSet
