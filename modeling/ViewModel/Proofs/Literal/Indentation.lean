import ViewModel.Proofs.Literal.Encoded
import ViewModel.Proofs.Literal.Shift

/-!
# Encoding at other indentations

Which datum a tree is read as, and what is recorded on the way to it, depends neither on the width of an
indentation step nor on the indentation of the place where it is written. With unbroken texts and names the
literal at a deeper indentation is therefore the literal of a root, shifted; and whatever the width, the lines
of the literal are the same but for leading spaces.

* `LaidOut`: attempts, one for each width and indentation, that lay out one datum;
* `laidOut_entry`, `laidOut_value`: properties and trees are encoded in this way;
* `encode_composes`: the literal at an indentation is the shifted literal of the root, and that of a nested tree
  stands so in its property.
-/

namespace ViewModel.Literal

open Schema Attempt TypesModule

/-- An attempt that fails for another reason than an unknown type is left as it is. -/
theorem orElseUnknown_of_misfit {attempt : Attempt EncodeError α} {misfit : Misfit}
    (h : attempt.outcome = .error (.misfit misfit)) (instead : UnknownStructure → Attempt EncodeError α) :
    orElseUnknown attempt instead = attempt := by
  obtain ⟨result, records⟩ := attempt
  obtain rfl : result = .error (.misfit misfit) := h
  change (⟨.error (.misfit misfit), records ++ []⟩ : Logged (Except EncodeError α)) =
    ⟨.error (.misfit misfit), records⟩
  rw [List.append_nil]

/-- What stands instead of an unknown type comes after the records that were made until then. -/
theorem orElseUnknown_of_unknown {attempt : Attempt EncodeError α} {error : UnknownStructure}
    (h : attempt.outcome = .error (.unknown error)) (instead : UnknownStructure → Attempt EncodeError α) :
    orElseUnknown attempt instead = ExceptT.lift ⟨(), attempt.records⟩ >>= fun _ => instead error := by
  obtain ⟨result, records⟩ := attempt
  obtain rfl : result = .error (.unknown error) := h
  change (⟨(instead error).run.value, records ++ (instead error).run.records⟩ : Logged (Except EncodeError α)) =
    ⟨(instead error).run.value, (records ++ []) ++ (instead error).run.records⟩
  rw [List.append_nil]

/-- The attempts, one for each width of a step and each indentation, come to one datum without line breaks in
it, and lay it out; all that is recorded is recorded on the way to the datum. -/
def LaidOut (attempts : Nat → String → Attempt EncodeError String) : Prop :=
  ∃ data : Attempt EncodeError Datum, (∀ datum, data.outcome = .ok datum → datum.IsUnbroken) ∧
    ∀ width indent, attempts width indent = do
      let datum ← data
      return datum.layout (spaces width) indent

namespace LaidOut

theorem datum {datum : Datum} (whole : datum.IsUnbroken) :
    LaidOut fun width indent => pure (datum.layout (spaces width) indent) := by
  refine ⟨pure datum, ?_, fun _ _ => rfl⟩
  intro other same
  cases same
  exact whole

theorem text {written : String} (whole : Unbroken written) : LaidOut fun _ _ => pure written := by
  refine ⟨pure (.bare written), ?_, ?_⟩
  · intro other same
    cases same
    rw [Datum.IsUnbroken]
    exact whole
  · intro width indent
    rw [pure_bind, Datum.layout]

theorem throw (error : EncodeError) : LaidOut fun _ _ => throw error :=
  ⟨MonadExcept.throw error, nofun, fun _ _ => rfl⟩

theorem bind {first : Attempt EncodeError α} {next : α → Nat → String → Attempt EncodeError String}
    (h : ∀ value, first.outcome = .ok value → LaidOut (next value)) :
    LaidOut fun width indent => first >>= fun value => next value width indent := by
  cases ended : first.outcome with
  | error error =>
    -- Nothing is written after an error, so any later step will do.
    refine ⟨first >>= fun _ => MonadExcept.throw error, ?_, ?_⟩
    · intro datum same
      rw [outcome_bind, ended] at same
      cases same
    · intro width indent
      rw [bind_assoc]
      apply bind_congr_of_outcome
      intro value same
      rw [ended] at same
      cases same
  | ok value =>
    obtain ⟨data, unbroken, same⟩ := h value ended
    refine ⟨first >>= fun _ => data, ?_, ?_⟩
    · intro datum here
      rw [outcome_bind_ok ended] at here
      exact unbroken datum here
    · intro width indent
      rw [bind_assoc]
      apply bind_congr_of_outcome
      intro other here
      rw [ended] at here
      cases here
      exact same width indent

/-- A look at a field, and then what is found there. -/
theorem look {found : Except Misfit α} {next : α → Nat → String → Attempt EncodeError String}
    (h : ∀ value, found = .ok value → LaidOut (next value)) :
    LaidOut fun width indent => Literal.look found >>= fun value => next value width indent := by
  apply bind
  intro value looked
  cases found with
  | error misfit => cases looked
  | ok value =>
    cases looked
    exact h _ rfl

/-- A record, and then a text. -/
theorem noted {record : Attempt EncodeError Unit} {written : String} (whole : Unbroken written) :
    LaidOut fun _ _ => do
      record
      return written :=
  bind fun _ _ => text whole

theorem orElseUnknown {attempts : Nat → String → Attempt EncodeError String} (h : LaidOut attempts)
    {instead : UnknownStructure → Attempt EncodeError String} (h' : ∀ error, LaidOut fun _ _ => instead error) :
    LaidOut fun width indent => Literal.orElseUnknown (attempts width indent) instead := by
  obtain ⟨data, unbroken, same⟩ := h
  cases ended : data.outcome with
  | ok datum =>
    refine ⟨data, unbroken, ?_⟩
    intro width indent
    dsimp only
    rw [same, orElseUnknown_of_ok (outcome_bind_ok ended _)]
  | error error =>
    -- All the attempts fail as the data do, with the same records.
    have failed (width : Nat) (indent : String) : (attempts width indent).outcome = .error error := by
      rw [same, outcome_bind, ended]
      rfl
    have recorded (width : Nat) (indent : String) : (attempts width indent).records = data.records := by
      rw [same, records_bind, ended, List.append_nil]
    cases error with
    | misfit misfit =>
      refine ⟨data, unbroken, ?_⟩
      intro width indent
      dsimp only
      rw [orElseUnknown_of_misfit (failed width indent), same]
    | unknown error =>
      have caught (width : Nat) (indent : String) : Literal.orElseUnknown (attempts width indent) instead =
          ExceptT.lift ⟨(), data.records⟩ >>= fun _ => instead error := by
        rw [orElseUnknown_of_unknown (failed width indent), recorded]
      simp only [caught]
      exact bind fun _ _ => h' error

/-- Lines of which each is laid out come to data, one for each line. -/
theorem exists_lines {items : List α} {attempts : α → Nat → String → Attempt EncodeError String}
    (each : ∀ item ∈ items, LaidOut (attempts item)) :
    ∃ data : Attempt EncodeError (List (α × Datum)),
      (∀ pairs, data.outcome = .ok pairs → ∀ pair ∈ pairs, pair.1 ∈ items ∧ pair.2.IsUnbroken) ∧
      ∀ width indent (line : α → String → String),
        (items.mapM fun item => do
          let literal ← attempts item width indent
          return line item literal) = do
            let pairs ← data
            return pairs.map fun pair => line pair.1 (pair.2.layout (spaces width) indent) := by
  induction items with
  | nil =>
    refine ⟨pure [], ?_, fun _ _ _ => rfl⟩
    intro pairs ended pair mem
    cases ended
    cases mem
  | cons item rest ih =>
    obtain ⟨⟨data, unbroken, same⟩, there⟩ := List.forall_mem_cons.1 each
    obtain ⟨others, othersUnbroken, othersSame⟩ := ih there
    refine ⟨do let datum ← data; let pairs ← others; return (item, datum) :: pairs, ?_, ?_⟩
    · intro pairs ended pair mem
      obtain ⟨datum, first, ended⟩ := outcome_bind_eq_ok ended
      obtain ⟨later, second, ended⟩ := outcome_bind_eq_ok ended
      cases ended
      rcases List.mem_cons.1 mem with rfl | mem
      · exact ⟨List.mem_cons_self, unbroken datum first⟩
      · obtain ⟨held, whole⟩ := othersUnbroken later second pair mem
        exact ⟨List.mem_cons_of_mem _ held, whole⟩
    · intro width indent line
      rw [List.mapM_cons, same, othersSame]
      simp only [bind_assoc, pure_bind, List.map_cons]

end LaidOut

namespace Encoder

/-- The placeholder of a sub-type, whatever the width of a step. -/
theorem exists_placeholder (registry : Registry) (font : String) {subType : String} (named : Unbroken subType) :
    ∃ missing, Unbroken missing ∧ ∀ width, (Encoder.mk registry width font).placeholder subType = missing :=
  ⟨_, unbroken_placeholder ⟨registry, 0, font⟩ named, fun _ => rfl⟩

/-- Trees that weigh less than the bound are laid out as values of every type. -/
def LaidOutUpTo (registry : Registry) (font : String) (bound : Nat) : Prop :=
  ∀ child : Tree, child.isUnbroken = true → child.weight < bound → ∀ typeName,
    LaidOut fun width indent => (Encoder.mk registry width font).value typeName child indent

section

variable {registry : Registry} {font : String} {tree : Tree} (whole : tree.isUnbroken = true)
include whole

theorem laidOut_commandLiteral :
    LaidOut fun width indent => (Encoder.mk registry width font).commandLiteral tree indent := by
  unfold commandLiteral
  apply LaidOut.look
  intro message? looked
  have message : Unbroken ((message?.map plain).getD "") := by
    cases message? with
    | none => exact (by decide : Unbroken "")
    | some message => exact unbroken_plain (isUnbroken_of_firstChild? whole looked)
  have command : (Datum.command ((message?.map plain).getD "")).IsUnbroken := by
    rw [Datum.IsUnbroken]
    exact message
  have laid := LaidOut.datum command
  simp only [Datum.layout] at laid
  exact laid

theorem laidOut_builtIn (name : String) :
    LaidOut fun width indent => (Encoder.mk registry width font).builtIn name tree indent := by
  unfold builtIn
  split
  · exact .text (unbroken_plain (Tree.isUnbroken_scalar whole))
  · exact .text (unbroken_plain (Tree.isUnbroken_scalar whole))
  · exact .text (unbroken_plain whole)
  · exact .text (unbroken_quote (unbroken_plain whole))
  · apply LaidOut.look
    intro source? looked
    cases path : source?.bind imagePath? with
    | none => exact .noted (by decide)
    | some path =>
      obtain ⟨source, rfl, held⟩ := Option.bind_eq_some_iff.1 path
      exact .text (unbroken_quote (unbroken_imagePath (isUnbroken_of_firstChild? whole looked) held))
  · apply LaidOut.look
    intro color? looked
    cases color? with
    | none => exact .noted (by decide)
    | some color => exact .text (unbroken_quote (unbroken_plain (isUnbroken_of_firstChild? whole looked)))
  · exact laidOut_commandLiteral whole
  · exact .noted (by decide)

variable (name property : String)

theorem laidOut_stringEntry : LaidOut fun _ indent => stringEntry ⟨name, property, tree, indent⟩ := by
  dsimp only [stringEntry, Slot.value?]
  apply LaidOut.look
  intro value? looked
  cases value? with
  | none => exact .text (by decide)
  | some value => exact .text (unbroken_quote (unbroken_plain (isUnbroken_of_firstValue? whole looked)))

-- Of a number or truth value only the scalar is written, whatever the texts of the tree.
omit whole in
theorem laidOut_numberEntry : LaidOut fun _ indent => numberEntry ⟨name, property, tree, indent⟩ := by
  dsimp only [numberEntry, Slot.value?, Slot.place]
  apply LaidOut.look
  intro value? _
  cases value?.map Tree.scalar with
  | none => exact .text (by decide)
  | some value =>
    cases value with
    | integer n => exact .text (unbroken_plain rfl)
    | decimal x => exact .text (unbroken_plain rfl)
    | _ => exact .noted (by decide)

omit whole in
theorem laidOut_booleanEntry : LaidOut fun _ indent => booleanEntry ⟨name, property, tree, indent⟩ := by
  dsimp only [booleanEntry, Slot.value?, Slot.place]
  apply LaidOut.look
  intro value? _
  cases value?.map Tree.scalar with
  | none => exact .text (by decide)
  | some value =>
    cases value with
    | flag value => exact .text (unbroken_plain rfl)
    | _ => exact .noted (by decide)

theorem laidOut_fontEntry (styled : Unbroken font) :
    LaidOut fun width indent => (Encoder.mk registry width font).fontEntry ⟨name, property, tree, indent⟩ := by
  have enum : Unbroken fontEnum := by decide
  dsimp only [fontEntry, Slot.value?]
  apply LaidOut.look
  intro value? looked
  cases value? with
  | none => exact .text (unbroken_memberRef styled enum)
  | some value =>
    exact .text (unbroken_memberRef (unbroken_plain (isUnbroken_of_firstValue? whole looked)) enum)

theorem laidOut_imageEntry :
    LaidOut fun width indent => (Encoder.mk registry width font).imageEntry ⟨name, property, tree, indent⟩ := by
  dsimp only [imageEntry, Slot.value?, Slot.child?, Slot.wrapper, Slot.place]
  apply LaidOut.look
  intro source? looked
  cases source? with
  | some source =>
    dsimp only
    cases path : imagePath? source with
    | none => exact .noted (by decide)
    | some path =>
      exact .text (unbroken_quote (unbroken_imagePath (isUnbroken_of_firstValue? whole looked) path))
  | none =>
    apply LaidOut.look
    intro bitmap? inside
    cases bitmap? with
    | none => exact .text (by decide)
    | some bitmap => exact laidOut_builtIn (isUnbroken_of_child whole inside) _

theorem laidOut_brushEntry :
    LaidOut fun width indent => (Encoder.mk registry width font).brushEntry ⟨name, property, tree, indent⟩ := by
  dsimp only [brushEntry, Slot.value?, Slot.child?, Slot.wrapper]
  apply LaidOut.look
  intro color? looked
  cases color? with
  | some color => exact .text (unbroken_quote (unbroken_plain (isUnbroken_of_firstValue? whole looked)))
  | none =>
    apply LaidOut.look
    intro brush? inside
    cases brush? with
    | none => exact .text (by decide)
    | some brush => exact laidOut_builtIn (isUnbroken_of_child whole inside) _

theorem laidOut_commandEntry :
    LaidOut fun width indent => (Encoder.mk registry width font).commandEntry ⟨name, property, tree, indent⟩ := by
  dsimp only [commandEntry, Slot.wrapper, Slot.place]
  apply LaidOut.look
  intro found? looked
  match found? with
  | none => exact .text (by decide)
  | some (first, none) => exact .noted (by decide)
  | some (first, some command) =>
    obtain ⟨unbroken, inside⟩ := isUnbroken_of_wrapped? whole looked
    exact laidOut_commandLiteral (isUnbroken_of_firstChild? unbroken inside)

theorem laidOut_enumEntry {subType : String} (named : Unbroken subType) :
    LaidOut fun width indent =>
      (Encoder.mk registry width font).enumEntry ⟨name, property, tree, indent⟩ subType := by
  obtain ⟨missing, unbroken, same⟩ := exists_placeholder registry font named
  dsimp only [enumEntry, Slot.value?, Slot.place]
  simp only [same]
  apply LaidOut.look
  intro value? looked
  cases value? with
  | none => exact .text unbroken
  | some value =>
    have member := unbroken_memberRef (unbroken_plain (isUnbroken_of_firstValue? whole looked)) named
    dsimp only
    cases registry.lookup? subType with
    | none => exact .noted unbroken
    | some found =>
      cases found with
      | enumType enum items =>
        dsimp only
        split
        · exact .noted member
        · exact .text member
      | classType => exact .text member
      | builtIn => exact .text member

theorem laidOut_objectEntry (below : LaidOutUpTo registry font tree.weight) {subType : String}
    (named : Unbroken subType) :
    LaidOut fun width indent =>
      (Encoder.mk registry width font).entry ⟨name, property, tree, indent⟩ (.object subType) := by
  obtain ⟨missing, unbroken, same⟩ := exists_placeholder registry font named
  simp only [entry, same, Slot.wrapper, Slot.place]
  split
  · exact .throw _
  · exact .text unbroken
  · exact .noted unbroken
  · rename_i first child found
    have lighter := weight_lt_of_wrapped found
    obtain ⟨inner, looked⟩ := isUnbroken_of_wrapped? whole found
    apply LaidOut.orElseUnknown
    · exact below child (isUnbroken_of_firstChild? inner looked) lighter _
    · exact fun _ => .noted unbroken

omit whole in
/-- The items between brackets, if each of them is laid out. -/
theorem laidOut_list (tag : String) {trees : List Tree}
    (each : ∀ tree ∈ trees, LaidOut fun width indent => (Encoder.mk registry width font).value tag tree indent) :
    LaidOut fun width indent => do
      let lines ← (Encoder.mk registry width font).items tag (indent ++ (Encoder.mk registry width font).step) trees
      return "\n".intercalate ("[" :: lines ++ [indent ++ "]"]) := by
  obtain ⟨data, unbroken, same⟩ := LaidOut.exists_lines each
  refine ⟨do let pairs ← data; return .list (pairs.map (·.2)), ?_, ?_⟩
  · intro datum ended
    obtain ⟨pairs, first, ended⟩ := outcome_bind_eq_ok ended
    cases ended
    rw [Datum.IsUnbroken, Datum.itemsUnbroken_iff, List.forall_mem_map]
    exact fun pair mem => (unbroken pairs first pair mem).2
  · intro width indent
    dsimp only
    rw [items_eq_mapM, same _ _ fun _ literal => indent ++ (Encoder.mk registry width font).step ++ literal ++ ","]
    simp only [bind_assoc, pure_bind, Datum.layout, Datum.layoutItems_eq_map, List.map_map]
    rfl

theorem laidOut_collectionEntry (below : LaidOutUpTo registry font tree.weight) (subType : String) :
    LaidOut fun width indent =>
      (Encoder.mk registry width font).entry ⟨name, property, tree, indent⟩ (.collection subType) := by
  simp only [entry, Slot.wrapper, Slot.place]
  split
  · exact .throw _
  · exact .text (by decide)
  · exact .noted (by decide)
  · rename_i first item rest found
    have lighter := weightItems_lt_of_wrapped found
    obtain ⟨inner, looked⟩ := isUnbroken_of_wrapped? whole found
    have listed : listedChildren first (dataTag subType) = item :: rest := Except.ok.inj looked
    apply LaidOut.orElseUnknown
    · apply laidOut_list
      intro child mem
      have light := Tree.weight_le_weightItems mem
      exact below child (isUnbroken_of_mem_listedChildren inner (listed ▸ mem)) (by omega) _
    · exact fun _ => .noted (by decide)

omit whole in
/-- The entries between braces, if each of them is laid out. -/
theorem laidOut_object (name : String) {properties : List (String × PropertyKind)}
    (named : ∀ property ∈ properties, Unbroken property.1)
    (each : ∀ property ∈ properties, LaidOut fun width indent =>
      (Encoder.mk registry width font).entry ⟨name, property.1, tree, indent⟩ property.2) :
    LaidOut fun width indent => do
      let lines ← (Encoder.mk registry width font).entries name tree
        (indent ++ (Encoder.mk registry width font).step) properties
      return "\n".intercalate ("\x7b" :: lines ++ [indent ++ "\x7d"]) := by
  obtain ⟨data, unbroken, same⟩ := LaidOut.exists_lines each
  refine ⟨do let pairs ← data; return .object (pairs.map fun pair => (pair.1.1, pair.2)), ?_, ?_⟩
  · intro datum ended
    obtain ⟨pairs, first, ended⟩ := outcome_bind_eq_ok ended
    cases ended
    rw [Datum.IsUnbroken, Datum.entriesUnbroken_iff, List.forall_mem_map]
    intro pair mem
    obtain ⟨declared, whole⟩ := unbroken pairs first pair mem
    exact ⟨named pair.1 declared, whole⟩
  · intro width indent
    dsimp only
    rw [entries_eq_mapM]
    have lines := same width (indent ++ (Encoder.mk registry width font).step) fun property literal =>
      indent ++ (Encoder.mk registry width font).step ++ property.1 ++ ": " ++ literal ++ ","
    refine (congrArg (· >>= _) lines).trans ?_
    simp only [bind_assoc, pure_bind, Datum.layout, Datum.layoutEntries_eq_map, List.map_map]
    rfl

/-- A property is laid out, if what it refers to is. -/
theorem laidOut_entry (below : LaidOutUpTo registry font tree.weight) (styled : Unbroken font)
    {kind : PropertyKind} (named : ∀ subType, kind.reference? = some subType → Unbroken subType) :
    LaidOut fun width indent => (Encoder.mk registry width font).entry ⟨name, property, tree, indent⟩ kind := by
  cases kind with
  | object subType => exact laidOut_objectEntry whole name property below (named subType rfl)
  | collection subType => exact laidOut_collectionEntry whole name property below subType
  | enum subType =>
    simp only [entry]
    exact laidOut_enumEntry whole name property (named subType rfl)
  | string =>
    simp only [entry]
    exact laidOut_stringEntry whole name property
  | number =>
    simp only [entry]
    exact laidOut_numberEntry name property
  | boolean =>
    simp only [entry]
    exact laidOut_booleanEntry name property
  | font =>
    simp only [entry]
    exact laidOut_fontEntry whole name property styled
  | image =>
    simp only [entry]
    exact laidOut_imageEntry whole name property
  | brush =>
    simp only [entry]
    exact laidOut_brushEntry whole name property
  | command =>
    simp only [entry]
    exact laidOut_commandEntry whole name property

end

/-- Every tree is laid out, whatever stands in it. -/
theorem laidOut_value {registry : Registry} {font : String} (written : registry.isUnbroken = true)
    (styled : Unbroken font) {tree : Tree} (whole : tree.isUnbroken = true) (typeName : String) :
    LaidOut fun width indent => (Encoder.mk registry width font).value typeName tree indent := by
  -- By weight and for all types at once: classes may refer to each other in a cycle, but the tree ends.
  induction weight : tree.weight using Nat.strongRecOn generalizing tree typeName with
  | ind bound ih =>
    have below : LaidOutUpTo registry font tree.weight := by
      intro child inner lighter typeName
      exact ih child.weight (weight ▸ lighter) inner typeName rfl
    simp only [value, Registry.resolve]
    cases looked : registry.lookup? typeName with
    | none => exact .throw _
    | some found =>
      cases found with
      | classType name properties =>
        apply laidOut_object
        · intro property declared
          exact (unbroken_of_property written looked declared).1
        · intro property declared
          exact laidOut_entry whole _ _ below styled (unbroken_of_property written looked declared).2
      | enumType name items =>
        exact .text (unbroken_memberRef (unbroken_plain whole) (unbroken_of_enumType written looked))
      | builtIn name => exact laidOut_builtIn whole name

section

variable {registry : Registry} {font : String} (written : registry.isUnbroken = true) (styled : Unbroken font)
include written styled

/-- A tree at an indentation is the tree as a root, shifted. -/
theorem value_eq_indented (width : Nat) (typeName : String) {tree : Tree} (whole : tree.isUnbroken = true)
    (indent : String) :
    (Encoder.mk registry width font).value typeName tree indent =
      indented indent <$> (Encoder.mk registry width font).encode typeName tree := by
  have blank : Unbroken (spaces width) := by simp [spaces]
  obtain ⟨data, unbroken, same⟩ := laidOut_value written styled whole typeName
  dsimp only at same
  rw [encode, same, same, map_bind]
  apply bind_congr_of_outcome
  intro datum ended
  have shifted := Datum.layout_append indent blank (unbroken datum ended) (by decide : Unbroken "")
  rw [String.append_empty] at shifted
  rw [map_pure, shifted]

/-- Whatever the width of a step and the indentation, the lines are the same but for leading spaces. -/
theorem dedentedLines_value_eq (typeName : String) {tree : Tree} (whole : tree.isUnbroken = true)
    (width width' n n' : Nat) :
    dedentedLines <$> (Encoder.mk registry width font).value typeName tree (spaces n) =
      dedentedLines <$> (Encoder.mk registry width' font).value typeName tree (spaces n') := by
  obtain ⟨data, -, same⟩ := laidOut_value written styled whole typeName
  dsimp only at same
  rw [same, same, map_bind, map_bind]
  apply bind_congr_of_outcome
  intro datum _
  have lines := (Datum.reindented_layout width width' datum n n').dedentedLines_eq
  rw [map_pure, map_pure, lines]

/-- An object property is its tree as a root, shifted to the place of the property. -/
theorem entry_object_eq_indented (width : Nat) (slot : Slot) (whole : slot.tree.isUnbroken = true)
    {subType : String} {first child : Tree}
    (found : wrapped? slot.tree slot.wrapper (firstChild? · (dataTag subType)) = .ok (some (first, some child)))
    {literal : String}
    (root : ((Encoder.mk registry width font).encode (dataTag subType) child).outcome = .ok literal) :
    (Encoder.mk registry width font).entry slot (.object subType) =
      indented slot.indent <$> (Encoder.mk registry width font).encode (dataTag subType) child := by
  obtain ⟨inner, looked⟩ := isUnbroken_of_wrapped? whole found
  have unbroken := isUnbroken_of_firstChild? inner looked
  have shifted := value_eq_indented written styled width (dataTag subType) unbroken slot.indent
  rw [entry]
  split <;> rename_i held <;> rw [found] at held <;> cases held
  dsimp only
  rw [shifted]
  exact orElseUnknown_of_ok (outcome_map_ok root _) _

/-- A collection is its trees as roots, each shifted to its place in the collection. -/
theorem outcome_collection_eq_indented (width : Nat) (slot : Slot) (whole : slot.tree.isUnbroken = true)
    {subType : String} {first : Tree} {children : List Tree} (filled : children ≠ [])
    (found : wrapped? slot.tree slot.wrapper (fun first => .ok (listedChildren first (dataTag subType))) =
      .ok (some (first, children)))
    {literal : Tree → String}
    (root : ∀ child ∈ children,
      ((Encoder.mk registry width font).encode (dataTag subType) child).outcome = .ok (literal child)) :
    ((Encoder.mk registry width font).entry slot (.collection subType)).outcome = .ok ("\n".intercalate ("[" ::
      children.map (fun child => slot.indent ++ spaces width ++
        indented (slot.indent ++ spaces width) (literal child) ++ ",") ++ [slot.indent ++ "]"])) := by
  obtain ⟨inner, looked⟩ := isUnbroken_of_wrapped? whole found
  have listed : listedChildren first (dataTag subType) = children := Except.ok.inj looked
  let place : String := slot.indent ++ spaces width
  have each : ∀ child ∈ children, ((Encoder.mk registry width font).value (dataTag subType) child place).outcome =
      .ok (indented place (literal child)) := by
    intro child mem
    have unbroken := isUnbroken_of_mem_listedChildren inner (listed ▸ mem)
    rw [value_eq_indented written styled width (dataTag subType) unbroken place]
    exact outcome_map_ok (root child mem) _
  have lines := (Encoder.mk registry width font).outcome_items each
  have ended := outcome_bind_ok lines fun lines => pure ("\n".intercalate ("[" :: lines ++ [slot.indent ++ "]"]))
  cases children with
  | nil => exact absurd rfl filled
  | cons item rest =>
    rw [entry]
    split <;> rename_i held <;> rw [found] at held <;> cases held
    exact (congrArg Attempt.outcome (orElseUnknown_of_ok ended _)).trans ended

end

/-- **Encoding composes in its layout.** If no text of the tree, no name of the registry and not the default
font has a line break in it, the literal at an indentation is that of the root with the indentation after every
line break. Hence an object property and each element of a collection is the literal of its tree as a root,
shifted to its place. And with steps of any two widths, at any two indentations, the lines are the same but for
leading spaces. -/
theorem encode_composes (encoder : Encoder) (written : encoder.registry.isUnbroken = true)
    (styled : Unbroken encoder.defaultFont) :
    (∀ typeName tree indent, tree.isUnbroken = true →
      encoder.value typeName tree indent = indented indent <$> encoder.encode typeName tree) ∧
    (∀ (slot : Slot) (subType : String) (first child : Tree) (literal : String), slot.tree.isUnbroken = true →
      wrapped? slot.tree slot.wrapper (firstChild? · (dataTag subType)) = .ok (some (first, some child)) →
      (encoder.encode (dataTag subType) child).outcome = .ok literal →
      encoder.entry slot (.object subType) = indented slot.indent <$> encoder.encode (dataTag subType) child) ∧
    (∀ (slot : Slot) (subType : String) (first : Tree) (children : List Tree) (literal : Tree → String),
      slot.tree.isUnbroken = true → children ≠ [] →
      wrapped? slot.tree slot.wrapper (fun first => .ok (listedChildren first (dataTag subType))) =
        .ok (some (first, children)) →
      (∀ child ∈ children, (encoder.encode (dataTag subType) child).outcome = .ok (literal child)) →
      (encoder.entry slot (.collection subType)).outcome = .ok ("\n".intercalate ("[" ::
        children.map (fun child => slot.indent ++ encoder.step ++
          indented (slot.indent ++ encoder.step) (literal child) ++ ",") ++ [slot.indent ++ "]"]))) ∧
    ∀ typeName tree width n n', tree.isUnbroken = true →
      dedentedLines <$> encoder.value typeName tree (spaces n) =
        dedentedLines <$> Encoder.value { encoder with indent := width } typeName tree (spaces n') := by
  refine ⟨?_, ?_, ?_, ?_⟩
  · intro typeName tree indent whole
    exact value_eq_indented written styled encoder.indent typeName whole indent
  · intro slot subType first child literal whole found root
    exact entry_object_eq_indented written styled encoder.indent slot whole found root
  · intro slot subType first children literal whole filled found root
    exact outcome_collection_eq_indented written styled encoder.indent slot whole filled found root
  · intro typeName tree width n n' whole
    exact dedentedLines_value_eq written styled typeName whole encoder.indent width n n'

/-- The source of a class of boxes that hold a lid and further boxes and can be opened. -/
def boxSource : Source :=
  ⟨"box.xml", "Class", .element [
    ("Name", .list [.text "Box"]),
    ("Property", .list [
      .element [("Name", .list [.text "Lid"]), ("Type", .list [.text "Object"]),
        ("SubType", .list [.text "Box"])],
      .element [("Name", .list [.text "Boxes"]), ("Type", .list [.text "Collection"]),
        ("SubType", .list [.text "Box"])],
      .element [("Name", .list [.text "Open"]), ("Type", .list [.text "Command"])]])]⟩

def boxRegistry : Registry :=
  Registry.empty.seed.add
    (.classType "Box" (Table.ofList [("Lid", .object "Box"), ("Boxes", .collection "Box"), ("Open", .command)]))

def talkingBox : Tree :=
  .element [("Box.Open", .list [.element [("MessageCommand", .list [.element [("Message", .list [.text "Hi"])]])]])]

/-- A box with a talking one as its lid and two more in it. -/
def fullBox : Tree :=
  .element [
    ("Box.Lid", .list [.element [("Box", .list [talkingBox])]]),
    ("Box.Boxes", .list [.element [("Box", .list [talkingBox, .element []])]])]

/-- The lid and the boxes of the full box are written as roots, shifted to their places, and the full box has
the same lines with steps of two and of four spaces. -/
theorem encode_composes_fullBox :
    (load [boxSource]).outcome = .ok boxRegistry ∧ boxRegistry.isUnbroken = true ∧ fullBox.isUnbroken = true ∧
      (Encoder.mk boxRegistry 2 "Bangers").value "Box" fullBox "    " =
        indented "    " <$> (Encoder.mk boxRegistry 2 "Bangers").encode "Box" fullBox ∧
      (Encoder.mk boxRegistry 2 "Bangers").entry ⟨"Box", "Lid", fullBox, "  "⟩ (.object "Box") =
        indented "  " <$> (Encoder.mk boxRegistry 2 "Bangers").encode "Box" talkingBox ∧
      (∃ talking empty,
        ((Encoder.mk boxRegistry 2 "Bangers").encode "Box" talkingBox).outcome = .ok talking ∧
        ((Encoder.mk boxRegistry 2 "Bangers").encode "Box" (.element [])).outcome = .ok empty ∧
        ((Encoder.mk boxRegistry 2 "Bangers").entry ⟨"Box", "Boxes", fullBox, "  "⟩ (.collection "Box")).outcome =
          .ok ("\n".intercalate ["[", "    " ++ indented "    " talking ++ ",",
            "    " ++ indented "    " empty ++ ",", "  ]"])) ∧
      dedentedLines <$> (Encoder.mk boxRegistry 2 "Bangers").value "Box" fullBox (spaces 0) =
        dedentedLines <$> (Encoder.mk boxRegistry 4 "Bangers").value "Box" fullBox (spaces 0) := by
  let encoder : Encoder := ⟨boxRegistry, 2, "Bangers"⟩
  have known : encoder.registry.lookup? "Box" ≠ none := Option.some_ne_none _
  let literal (tree : Tree) : String := (encoder.encode "Box" tree).outcome.toOption.getD ""
  have settles (tree : Tree) (textual : tree.isTextual = true) :
      (encoder.encode "Box" tree).outcome = .ok (literal tree) := by
    obtain ⟨text, ended⟩ := (encoder.value_settles textual known "").1
    change (encoder.encode "Box" tree).outcome = .ok text at ended
    simp only [literal, ended, Except.toOption, Option.getD_some]
  have roots : ∀ child ∈ [talkingBox, .element []], (encoder.encode "Box" child).outcome = .ok (literal child) := by
    intro child mem
    apply settles
    simp only [List.mem_cons, List.not_mem_nil, or_false] at mem
    rcases mem with rfl | rfl <;> rfl
  obtain ⟨shifted, object, collection, lines⟩ := encode_composes encoder rfl (by decide)
  refine ⟨rfl, rfl, rfl, shifted "Box" fullBox "    " rfl, ?_, ?_, lines "Box" fullBox 4 0 0 rfl⟩
  · exact object ⟨"Box", "Lid", fullBox, "  "⟩ "Box" _ _ _ rfl rfl (settles talkingBox rfl)
  · refine ⟨literal talkingBox, literal (.element []), settles _ rfl, settles _ rfl, ?_⟩
    exact collection ⟨"Box", "Boxes", fullBox, "  "⟩ "Box" _ [talkingBox, .element []] literal rfl
      (List.cons_ne_nil _ _) rfl roots

end Encoder

end ViewModel.Literal
