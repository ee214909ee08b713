import ViewModel.Proofs.Files.Directories
import ViewModel.Proofs.Files.Listing

/-!
# Files written over others

A file system after some files of a base were written, while others changed freely. Only contents of files
differ from the base, so every path leads where it led before, and what no write is at stays.

* `Overlaid`: the writes over a base, latest first, apart from some places that are free;
* `Overlaid.keeps`, `Overlaid.locate_iff`: paths lead where they lead in the base;
* `Overlaid.put`, `Overlaid.append`: one more write, and more content of a free file.
-/

namespace ViewModel.Files.FileSystem

/-- What is left of a base after writes, latest first, and after changes to the files at free places. -/
structure Overlaid (free : List Location) (base : FileSystem) (writes : List (Location × List UInt8))
    (later : FileSystem) : Prop where
  here : later.here = base.here
  obstacles : later.obstacles = base.obstacles
  distinct : later.Distinct
  /-- Nothing but files is written over, and no file at a free place. -/
  solid : ∀ write ∈ writes, write.1 ∉ free ∧ base.lookup? write.1 ≠ some .directory ∧
    ∀ target, base.lookup? write.1 ≠ some (.link target)
  permitted : ∀ write ∈ writes, base.permitsWriting write.1 = true
  /-- Free places stay files. -/
  loose : ∀ place ∈ free, (∃ content, base.lookup? place = some (.file content)) ∧
    ∃ content, later.lookup? place = some (.file content)
  held : ∀ place, place ∉ free →
    later.lookup? place = ((writes.lookup place).map Entry.file).or (base.lookup? place)

namespace Overlaid

variable {free : List Location} {base later : FileSystem} {writes : List (Location × List UInt8)}

theorem refl (distinct : base.Distinct)
    (files : ∀ place ∈ free, ∃ content, base.lookup? place = some (.file content)) :
    Overlaid free base [] base :=
  ⟨rfl, rfl, distinct, fun _ mem => absurd mem List.not_mem_nil, fun _ mem => absurd mem List.not_mem_nil,
    fun place mem => ⟨files place mem, files place mem⟩, fun _ _ => rfl⟩

theorem lookup?_of_lookup (overlaid : Overlaid free base writes later) {place : Location}
    {content : List UInt8} (wrote : writes.lookup place = some content) :
    later.lookup? place = some (.file content) := by
  have mem := mem_of_lookup wrote
  rw [overlaid.held place (overlaid.solid _ mem).1, wrote]
  rfl

/-- What is neither written nor free is as it was. -/
theorem lookup?_of_not_mem (overlaid : Overlaid free base writes later) {place : Location}
    (fixed : place ∉ free) (unwritten : place ∉ writes.map Prod.fst) :
    later.lookup? place = base.lookup? place := by
  have missing : writes.lookup place = none := by
    refine List.lookup_eq_none_iff.2 fun write mem => bne_iff_ne.2 fun same => ?_
    exact unwritten (same ▸ List.mem_map_of_mem mem)
  rw [overlaid.held place fixed, missing]
  rfl

/-- Where no file was written one stands if one stood in the base. -/
theorem file_iff (overlaid : Overlaid free base writes later) {place : Location}
    (unwritten : place ∉ writes.map Prod.fst) :
    (∃ content, later.lookup? place = some (.file content)) ↔
      ∃ content, base.lookup? place = some (.file content) := by
  by_cases mem : place ∈ free
  · obtain ⟨was, is⟩ := overlaid.loose place mem
    exact iff_of_true is was
  · rw [overlaid.lookup?_of_not_mem mem unwritten]

theorem ne_none_of_unwritten (overlaid : Overlaid free base writes later) {place : Location}
    (unwritten : place ∉ writes.map Prod.fst) (there : later.lookup? place ≠ none) :
    base.lookup? place ≠ none := by
  by_cases mem : place ∈ free
  · obtain ⟨⟨content, was⟩, -⟩ := overlaid.loose place mem
    rw [was]
    exact nofun
  · rwa [overlaid.lookup?_of_not_mem mem unwritten] at there

/-- Directories and links are those of the base. -/
theorem lookup?_eq_iff (overlaid : Overlaid free base writes later) {entry : Entry}
    (solid : ∀ content, entry ≠ .file content) (place : Location) :
    later.lookup? place = some entry ↔ base.lookup? place = some entry := by
  by_cases mem : place ∈ free
  · obtain ⟨⟨old, was⟩, new, is⟩ := overlaid.loose place mem
    rw [was, is]
    constructor <;> intro same <;> exact absurd (Option.some.inj same).symm (solid _)
  · rw [overlaid.held place mem]
    cases wrote : writes.lookup place with
    | none => rfl
    | some content =>
      obtain ⟨-, solid', unlinked⟩ := overlaid.solid _ (mem_of_lookup wrote)
      constructor
      · intro same
        exact absurd (Option.some.inj same).symm (solid _)
      · intro same
        cases entry with
        | directory => exact absurd same solid'
        | link target => exact absurd same (unlinked target)
        | file content => exact absurd rfl (solid content)

theorem keeps (overlaid : Overlaid free base writes later) : Keeps base later where
  here := overlaid.here
  obstacles := overlaid.obstacles
  directory place := (overlaid.lookup?_eq_iff (by exact nofun) place).2
  link place _ := overlaid.lookup?_eq_iff (by exact nofun) place

theorem kept (overlaid : Overlaid free base writes later) : Keeps later base where
  here := overlaid.here.symm
  obstacles := overlaid.obstacles.symm
  directory place := (overlaid.lookup?_eq_iff (by exact nofun) place).1
  link place _ := (overlaid.lookup?_eq_iff (by exact nofun) place).symm

theorem locate_iff (overlaid : Overlaid free base writes later) {path : Path} {place : Location} :
    later.locate path = .ok place ↔ base.locate path = .ok place :=
  ⟨overlaid.kept.locate, overlaid.keeps.locate⟩

/-- A file may be written if it might in the base: what was written there might be. -/
theorem permitsWriting_eq (overlaid : Overlaid free base writes later) (place : Location) :
    later.permitsWriting place = base.permitsWriting place := by
  have obstacles := meets_congr overlaid.obstacles
  by_cases mem : place ∈ writes.map Prod.fst
  · obtain ⟨write, wrote, rfl⟩ := List.mem_map.1 mem
    have permitted := overlaid.permitted write wrote
    obtain ⟨content, held⟩ : ∃ content, writes.lookup write.1 = some content :=
      Option.ne_none_iff_exists'.1 fun none => by
        simpa using List.lookup_eq_none_iff.1 none write wrote
    rw [permitted, permitsWriting, obstacles, overlaid.lookup?_of_lookup held]
    rw [permitsWriting, Bool.and_eq_true] at permitted
    rw [permitted.1]
    rfl
  · have same : (later.lookup? place).isSome = (base.lookup? place).isSome := by
      by_cases loose : place ∈ free
      · obtain ⟨⟨old, was⟩, new, is⟩ := overlaid.loose place loose
        rw [was, is]
        rfl
      · rw [overlaid.lookup?_of_not_mem loose mem]
    rw [permitsWriting, permitsWriting, permitsChange, permitsChange, obstacles, obstacles, same]

/-- One more file is written. -/
theorem put (overlaid : Overlaid free base writes later) {place : Location} (fixed : place ∉ free)
    (solid : base.lookup? place ≠ some .directory)
    (unlinked : ∀ target, base.lookup? place ≠ some (.link target))
    (permitted : base.permitsWriting place = true) (content : List UInt8) :
    Overlaid free base ((place, content) :: writes) (later.put place (.file content)) := by
  have inside := ne_nil_of_lookup? solid
  refine ⟨overlaid.here, overlaid.obstacles, distinct_put overlaid.distinct _ _, ?_, ?_, ?_, ?_⟩
  · exact List.forall_mem_cons.2 ⟨⟨fixed, solid, unlinked⟩, overlaid.solid⟩
  · exact List.forall_mem_cons.2 ⟨permitted, overlaid.permitted⟩
  · intro other mem
    have apart : other ≠ place := fun same => fixed (same ▸ mem)
    rw [lookup?_put later _ other inside, if_neg apart]
    exact overlaid.loose other mem
  · intro other mem
    rw [lookup?_put later _ other inside, List.lookup_cons]
    by_cases same : other = place
    · simp [same]
    · rw [if_neg same, beq_false_of_ne same]
      exact overlaid.held other mem

/-- A free file gets more content. -/
theorem append (overlaid : Overlaid free base writes later) {place : Location} (mem : place ∈ free)
    (content : List UInt8) : Overlaid free base writes (later.append place content) := by
  obtain ⟨⟨was, before⟩, old, there⟩ := overlaid.loose place mem
  have inside : place ≠ [] := ne_nil_of_lookup? (by rw [there]; exact nofun)
  rw [FileSystem.append, there]
  refine ⟨overlaid.here, overlaid.obstacles, distinct_put overlaid.distinct _ _, overlaid.solid,
    overlaid.permitted, ?_, ?_⟩
  · intro other mem'
    rw [lookup?_put later _ other inside]
    by_cases same : other = place
    · exact ⟨same ▸ ⟨was, before⟩, _, if_pos same⟩
    · rw [if_neg same]
      exact overlaid.loose other mem'
  · intro other fixed
    have apart : other ≠ place := fun same => fixed (same ▸ mem)
    rw [lookup?_put later _ other inside, if_neg apart]
    exact overlaid.held other fixed

end Overlaid

end ViewModel.Files.FileSystem
