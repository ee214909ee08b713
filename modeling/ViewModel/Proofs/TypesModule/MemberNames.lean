import ViewModel.Proofs.Literal.SameMembers
import ViewModel.Proofs.TypesModule.Outline

/-!
# Names of members, declared and referred to

The declaration of an enum writes its members between double quotes as they are; a reference escapes the
quotes within. Both are meant as literals of the generated language, so they are read here as it reads them:
a literal ends at its first quote without a backslash in front, and no line of text ends within it.

* `literal?`, `memberOf?`: the text that a literal denotes, and the member that a line declares;
* `literal?_between`: a text in quotes denotes itself if nothing in it has to be escaped;
* `memberOf?_memberLine_iff`: the line of a member declares it unless there is a quote in it;
* `members_declared_as_referred_iff`: all of it, for every enum of a registry that comes from sources.
-/

namespace ViewModel

open Schema Literal

namespace TypesModule

/-- What a character stands for after a backslash. Codes in digits and continued lines are not read. -/
def escaped? (c : Char) : Option Char :=
  match c with
  | 'b' => some '\x08'
  | 'f' => some '\x0c'
  | 'n' => some '\n'
  | 'r' => some '\r'
  | 't' => some '\t'
  | 'v' => some '\x0b'
  | 'u' | 'x' | '\n' | '\r' => none
  | c => if c.isDigit then none else some c

/-- What the rest of a double-quoted literal denotes, and what follows its closing quote. -/
def closing? : List Char → Option (List Char × List Char)
  | [] => none
  | '"' :: rest => some ([], rest)
  | ['\\'] => none
  | '\\' :: c :: rest => do
    let first ← escaped? c
    let (text, after) ← closing? rest
    return (first :: text, after)
  | c :: rest =>
    if c = '\n' ∨ c = '\r' then none
    else (closing? rest).map fun (text, after) => (c :: text, after)

/-- What a double-quoted literal denotes, and what follows it. -/
def literal? : List Char → Option (List Char × List Char)
  | '"' :: rest => closing? rest
  | _ => none

/-- The member that a line declares: the text of a literal that is given the value of another. -/
def memberOf? (line : String) : Option String :=
  match literal? (line.toList.dropWhile (· == ' ')) with
  | some (key, ' ' :: '=' :: ' ' :: rest) =>
    match literal? rest with
    | some (_, [',']) => some (String.ofList key)
    | _ => none
  | _ => none

/-- The text is one double-quoted literal, which denotes the other text. -/
def Denotes (written text : String) : Prop := literal? written.toList = some (text.toList, [])

/-- No backslash and no line break. -/
def IsPlain (text : List Char) : Prop := ∀ c ∈ text, c ≠ '\\' ∧ c ≠ '\n' ∧ c ≠ '\r'

instance (text : List Char) : Decidable (IsPlain text) :=
  List.decidableBAll (fun c => c ≠ '\\' ∧ c ≠ '\n' ∧ c ≠ '\r') text

/-- The name of a member as its declaration has it. -/
def keyText (member : String) : String := "\"" ++ member ++ "\""

section

variable {c : Char} {text rest : List Char}

theorem closing?_cons (backslash : c ≠ '\\') (quote : c ≠ '"') :
    closing? (c :: rest) =
      if c = '\n' ∨ c = '\r' then none
      else (closing? rest).map fun (text, after) => (c :: text, after) := by
  rw [closing?]
  · exact quote
  · exact fun same _ => backslash same
  · exact fun _ _ same _ => backslash same

/-- Characters that are neither quotes, backslashes nor line breaks denote themselves. -/
theorem closing?_append (plain : IsPlain text) (unquoted : '"' ∉ text) :
    closing? (text ++ rest) = (closing? rest).map fun (denoted, after) => (text ++ denoted, after) := by
  induction text with
  | nil =>
    rw [List.nil_append]
    cases closing? rest <;> rfl
  | cons c text ih =>
    obtain ⟨⟨backslash, feed, carriage⟩, later⟩ := List.forall_mem_cons.1 plain
    rw [List.mem_cons, not_or] at unquoted
    rw [List.cons_append, closing?_cons backslash (Ne.symm unquoted.1),
      if_neg (not_or.2 ⟨feed, carriage⟩), ih later unquoted.2]
    cases closing? rest <;> rfl

/-- A literal ends at the first quote of its text. -/
theorem literal?_between (plain : IsPlain text) (unquoted : '"' ∉ text) (rest : List Char) :
    literal? ('"' :: text ++ '"' :: rest) = some (text, rest) := by
  rw [List.cons_append, literal?, closing?_append plain unquoted, closing?]
  simp only [Option.map_some, List.append_nil]

/-- An escaped text denotes the text. -/
theorem closing?_escape (plain : IsPlain text) :
    closing? (text.flatMap escapeChar ++ '"' :: rest) = some (text, rest) := by
  induction text with
  | nil => rfl
  | cons c text ih =>
    obtain ⟨⟨backslash, feed, carriage⟩, later⟩ := List.forall_mem_cons.1 plain
    rw [List.flatMap_cons, List.append_assoc]
    by_cases quoted : c = '"'
    · subst quoted
      change closing? ('\\' :: '"' :: (text.flatMap escapeChar ++ '"' :: rest)) = _
      rw [closing?, ih later]
      rfl
    · rw [escapeChar, if_neg quoted, List.singleton_append, closing?_cons backslash quoted,
        if_neg (not_or.2 ⟨feed, carriage⟩), ih later]
      rfl

/-- What is read without a backslash stands before the closing quote, and has no quote in it. -/
theorem eq_of_closing? {after : List Char} (plain : '\\' ∉ rest) (read : closing? rest = some (text, after)) :
    rest = text ++ '"' :: after ∧ '"' ∉ text := by
  induction rest generalizing text with
  | nil => cases read
  | cons c rest ih =>
    rw [List.mem_cons, not_or] at plain
    by_cases quoted : c = '"'
    · subst quoted
      rw [closing?] at read
      cases read
      exact ⟨rfl, List.not_mem_nil⟩
    · rw [closing?_cons (Ne.symm plain.1) quoted] at read
      split at read
      · cases read
      · obtain ⟨⟨later, ended⟩, inner, same⟩ := Option.map_eq_some_iff.1 read
        cases same
        obtain ⟨rfl, unquoted⟩ := ih plain.2 inner
        refine ⟨rfl, ?_⟩
        rw [List.mem_cons, not_or]
        exact ⟨Ne.symm quoted, unquoted⟩

theorem eq_of_literal? {after : List Char} (plain : '\\' ∉ rest) (read : literal? rest = some (text, after)) :
    rest = '"' :: text ++ '"' :: after ∧ '"' ∉ text := by
  unfold literal? at read
  split at read
  · obtain ⟨rfl, unquoted⟩ := eq_of_closing? (fun mem => plain (List.mem_cons_of_mem _ mem)) read
    exact ⟨rfl, unquoted⟩
  · cases read

end

section

variable {member : String} (plain : IsPlain member.toList)
include plain

theorem denotes_quote : Denotes (quote member) member := by
  rw [Denotes, toList_quote, literal?]
  exact closing?_escape plain

/-- The key of a member is read up to its first quote. -/
theorem exists_literal?_keyText (rest : List Char) :
    ∃ key after, '"' ∉ key ∧ literal? ((keyText member).toList ++ rest) = some (key, after) ∧
      ('"' ∉ member.toList → key = member.toList ∧ after = rest) := by
  have written : (keyText member).toList ++ rest = '"' :: member.toList ++ '"' :: rest := by simp [keyText]
  rw [written]
  by_cases quoted : '"' ∈ member.toList
  · obtain ⟨before, after, split, unquoted⟩ := List.eq_append_cons_of_mem quoted
    have plainBefore : IsPlain before := by
      intro c mem
      exact plain c (split ▸ List.mem_append_left _ mem)
    refine ⟨before, after ++ '"' :: rest, unquoted, ?_, absurd quoted⟩
    have cut := literal?_between plainBefore unquoted (after ++ '"' :: rest)
    rw [← cut, split]
    simp
  · exact ⟨member.toList, rest, quoted, literal?_between plain quoted rest, fun _ => ⟨rfl, rfl⟩⟩

theorem denotes_keyText_iff : Denotes (keyText member) member ↔ '"' ∉ member.toList := by
  obtain ⟨key, after, unquoted, read, whole⟩ := exists_literal?_keyText plain []
  rw [List.append_nil] at read
  rw [Denotes, read]
  constructor
  · intro same
    obtain ⟨rfl, -⟩ := Prod.mk.inj (Option.some.inj same)
    exact unquoted
  · intro h
    obtain ⟨rfl, rfl⟩ := whole h
    rfl

/-- Nothing has to be escaped exactly if there is no quote. -/
theorem keyText_eq_quote_iff : keyText member = quote member ↔ '"' ∉ member.toList := by
  constructor
  · intro same
    apply (denotes_keyText_iff plain).1
    rw [same]
    exact denotes_quote plain
  · intro unquoted
    have kept : member.toList.flatMap escapeChar = member.toList.flatMap fun c => [c] := by
      apply List.flatMap_congr
      intro c mem
      have other : c ≠ '"' := fun same => unquoted (same ▸ mem)
      rw [escapeChar, if_neg other]
    rw [keyText, quote, escape, kept, List.flatMap_singleton', String.ofList_toList]

end

theorem dropWhile_spaces (width : Nat) {c : Char} (text : c ≠ ' ') (rest : List Char) :
    ((spaces width).toList ++ c :: rest).dropWhile (· == ' ') = c :: rest := by
  rw [spaces, String.toList_ofList]
  induction width with
  | zero => simp [text]
  | succ width ih => simpa [List.replicate_succ] using ih

/-- A line that is read as a member has the four quotes of its two literals, if it has no backslash. -/
theorem count_of_memberOf? {line read : String} (plain : '\\' ∉ line.toList) (h : memberOf? line = some read) :
    (line.toList.dropWhile (· == ' ')).count '"' = 4 := by
  have shorter : '\\' ∉ line.toList.dropWhile (· == ' ') := fun mem =>
    plain ((List.dropWhile_suffix _).subset mem)
  unfold memberOf? at h
  split at h
  · rename_i key rest first
    obtain ⟨split, unquoted⟩ := eq_of_literal? shorter first
    split at h
    · rename_i value second
      have plainRest : '\\' ∉ rest := by
        intro mem
        apply shorter
        rw [split]
        simp [mem]
      obtain ⟨rfl, unquoted'⟩ := eq_of_literal? plainRest second
      rw [split]
      simp [List.count_eq_zero.2 unquoted, List.count_eq_zero.2 unquoted']
    · cases h
  · cases h

/-- The line of a member declares it unless there is a quote in it; then it is no declaration at all. -/
theorem memberOf?_memberLine_iff {member : String} (plain : IsPlain member.toList) (width : Nat) (read : String) :
    memberOf? (Outline.memberLine (spaces width) member) = some read ↔ read = member ∧ '"' ∉ member.toList := by
  have written : (Outline.memberLine (spaces width) member).toList = (spaces width).toList ++
      '"' :: (member.toList ++ '"' :: ' ' :: '=' :: ' ' :: '"' :: (member.toList ++ ['"', ','])) := by
    simp [Outline.memberLine]
  have cut := dropWhile_spaces width (show '"' ≠ ' ' by decide)
    (member.toList ++ '"' :: ' ' :: '=' :: ' ' :: '"' :: (member.toList ++ ['"', ',']))
  have declares : '"' ∉ member.toList → memberOf? (Outline.memberLine (spaces width) member) = some member := by
    intro unquoted
    have key := literal?_between plain unquoted (' ' :: '=' :: ' ' :: '"' :: (member.toList ++ ['"', ',']))
    have value := literal?_between plain unquoted [',']
    rw [List.cons_append] at key value
    rw [memberOf?, written, cut, key]
    simp [value]
  constructor
  · intro h
    have unquoted : '"' ∉ member.toList := by
      have blank : '\\' ∉ (spaces width).toList := by
        intro mem
        rw [spaces, String.toList_ofList] at mem
        cases List.eq_of_mem_replicate mem
      have backslash : '\\' ∉ (Outline.memberLine (spaces width) member).toList := by
        have absent : '\\' ∉ member.toList := fun mem => (plain _ mem).1 rfl
        simp [written, blank, absent]
      have count := count_of_memberOf? backslash h
      rw [written, cut] at count
      simp only [List.count_cons, List.count_append] at count
      apply List.count_eq_zero.1
      simp at count
      omega
    rw [declares unquoted] at h
    exact ⟨(Option.some.inj h).symm, unquoted⟩
  · rintro ⟨rfl, unquoted⟩
    exact declares unquoted

/-- The lines of an enum declare its members, all of them and in order, if there is no quote in any. -/
theorem map_memberOf?_eq_iff {members : List String} (plain : ∀ member ∈ members, IsPlain member.toList)
    (width : Nat) :
    (members.map (Outline.memberLine (spaces width))).map memberOf? = members.map some ↔
      ∀ member ∈ members, '"' ∉ member.toList := by
  rw [List.map_map]
  constructor
  · intro same member mem
    have here := List.map_inj_left.1 same member mem
    exact ((memberOf?_memberLine_iff (plain member mem) width member).1 here).2
  · intro unquoted
    apply List.map_congr_left
    intro member mem
    exact (memberOf?_memberLine_iff (plain member mem) width member).2 ⟨rfl, unquoted member mem⟩

/-- A member is among those that the lines declare unless there is a quote in it. -/
theorem mem_map_memberOf?_iff {members : List String} (plain : ∀ member ∈ members, IsPlain member.toList)
    (width : Nat) {member : String} (mem : member ∈ members) :
    some member ∈ (members.map (Outline.memberLine (spaces width))).map memberOf? ↔ '"' ∉ member.toList := by
  rw [List.map_map]
  constructor
  · intro declared
    obtain ⟨other, inside, read⟩ := List.mem_map.1 declared
    obtain ⟨rfl, unquoted⟩ := (memberOf?_memberLine_iff (plain other inside) width member).1 read
    exact unquoted
  · intro unquoted
    have read := (memberOf?_memberLine_iff (plain member mem) width member).2 ⟨rfl, unquoted⟩
    exact List.mem_map.2 ⟨member, mem, read⟩

/-- **Members are declared as they are referred to, but for quotes.** In the module of a registry that comes
from sources, every enum has a line for each member. If the member's name has neither a backslash nor a line
break, then the literal of a reference denotes the name, and the key of the line is that literal, denotes the
name, and declares the member, each exactly if there is no quote in the name. So if all names are of this form,
the lines declare just the members of the enum if there is no quote in any, and a reference in brackets has its
member declared if there is none in its own. -/
theorem members_declared_as_referred_iff {sources : List Source} {registry : Registry}
    (loaded : (load sources).outcome = .ok registry) (options : Options) {name : String} {items : Table Int}
    (held : .enumType name items ∈ registry.structures) :
    DeclaredAs registry options name ((Outline.enumType name items.names).lines (spaces options.indent)) ∧
      (∀ member ∈ items.names, IsPlain member.toList →
        Denotes (quote member) member ∧
        (Text.isIdentifier member = false → memberRef name member = name ++ "[" ++ quote member ++ "]") ∧
        (keyText member = quote member ↔ '"' ∉ member.toList) ∧
        (Denotes (keyText member) member ↔ '"' ∉ member.toList) ∧
        (memberOf? (Outline.memberLine (spaces options.indent) member) = some member ↔ '"' ∉ member.toList)) ∧
      ((∀ member ∈ items.names, IsPlain member.toList) →
        (((Outline.enumType name items.names).body (spaces options.indent)).map memberOf? =
            items.names.map some ↔ ∀ member ∈ items.names, '"' ∉ member.toList) ∧
        ∀ member ∈ items.names,
          (some member ∈ ((Outline.enumType name items.names).body (spaces options.indent)).map memberOf? ↔
            '"' ∉ member.toList)) := by
  refine ⟨?_, ?_, ?_⟩
  · have declared : .enumType name items ∈ registry.declarations := List.mem_filter.2 ⟨held, rfl⟩
    exact exists_declaredAs (isLoaded_of_load loaded) declared options
  · intro member _ plain
    refine ⟨denotes_quote plain, ?_, keyText_eq_quote_iff plain, denotes_keyText_iff plain, ?_⟩
    · intro other
      rw [memberRef, other, if_neg Bool.false_ne_true]
    · rw [memberOf?_memberLine_iff plain]
      exact and_iff_right rfl
  · intro plain
    exact ⟨map_memberOf?_eq_iff plain _, fun member mem => mem_map_memberOf?_iff plain _ mem⟩

def editionSource (second : String) : Source :=
  ⟨"edition.xml", "Enum", .element [
    ("Name", .list [.text "Edition"]),
    ("Item", .list [
      .element [("Name", .list [.text "First"]), ("Value", .list [.text "0"])],
      .element [("Name", .list [.text second]), ("Value", .list [.text "1"])]])]⟩

def editionItems (second : String) : Table Int := Table.ofList [("First", 0), (second, 1)]

def editionRegistry (second : String) : Registry :=
  Registry.empty.seed.add (.enumType "Edition" (editionItems second))

/-- An edition of a name with a hyphen is declared as it is referred to. -/
theorem members_declared_as_referred_edition :
    (load [editionSource "Limited-Run"]).outcome = .ok (editionRegistry "Limited-Run") ∧
      memberRef "Edition" "Limited-Run" = "Edition[\"Limited-Run\"]" ∧
      ((Outline.enumType "Edition" ["First", "Limited-Run"]).body "  ").map memberOf? =
        [some "First", some "Limited-Run"] := by
  have loaded : (load [editionSource "Limited-Run"]).outcome = .ok (editionRegistry "Limited-Run") := rfl
  have held : .enumType "Edition" (editionItems "Limited-Run") ∈ (editionRegistry "Limited-Run").structures :=
    Registry.mem_structures_add.2 (.inl rfl)
  have plain : ∀ member ∈ (editionItems "Limited-Run").names, IsPlain member.toList := by decide
  obtain ⟨-, each, all⟩ := members_declared_as_referred_iff loaded {} held
  obtain ⟨-, referred, -⟩ := each "Limited-Run" (by decide) (plain _ (by decide))
  exact ⟨loaded, referred (by decide), (all plain).1.2 (by decide)⟩

/-- The key of a name with a quote is no literal of the name, which a reference escapes. -/
theorem quote_declared_unescaped :
    (load [editionSource "2\" print"]).outcome = .ok (editionRegistry "2\" print") ∧
      "2\" print" ∈ (editionItems "2\" print").names ∧ IsPlain "2\" print".toList ∧
      Outline.memberLine (spaces 2) "2\" print" = "  \"2\" print\" = \"2\" print\"," ∧
      memberRef "Edition" "2\" print" = "Edition[\"2\\\" print\"]" ∧
      ¬ Denotes (keyText "2\" print") "2\" print" ∧
      memberOf? (Outline.memberLine (spaces 2) "2\" print") ≠ some "2\" print" := by
  have plain : IsPlain "2\" print".toList := by decide
  have quoted : ¬ '"' ∉ "2\" print".toList := by decide
  refine ⟨rfl, by decide, plain, rfl, rfl, ?_, ?_⟩
  · rw [denotes_keyText_iff plain]
    exact quoted
  · rw [Ne, memberOf?_memberLine_iff plain]
    exact fun h => quoted h.2

end TypesModule

end ViewModel
