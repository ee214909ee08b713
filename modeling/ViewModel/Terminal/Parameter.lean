import ViewModel.Terminal.Parameter.Token
import ViewModel.Text.Blank

/-!
# Parameters of tags

A tag that starts with an at sign may have parameters: a name, with values in brackets after it if it needs
any, or just values. Values are numbers, strings, truth values, nothing, and what brackets make of them.
-/

namespace ViewModel.Terminal.Parameter

open Text

/-- What a value is, as far as it matters for where it may stand: a number, a number with a sign, any other
value, or one that may be no key because it holds a set or a table. -/
inductive Kind
  | number (imaginary : Bool)
  | signed (imaginary : Bool)
  | plain
  | unkeyed
  deriving DecidableEq, Repr

/-- How far a value is read. -/
inductive Place
  | start
  | sign
  | value (kind : Kind)
  | string (bytes : Bool)
  | sum
  deriving DecidableEq, Repr

/-- What a pair of brackets holds so far, or the outermost values: the bracket, where it stands, how many
values are done, whether one of them may be no key, and, in a table, whether a key is waiting for its
value. -/
structure Frame where
  bracket : Option Char
  before : Place
  done : Nat
  holdsUnkeyed : Bool
  table : Bool
  waiting : Bool
  deriving DecidableEq, Repr

def Frame.opened (bracket : Option Char) (before : Place) : Frame :=
  ⟨bracket, before, 0, false, false, false⟩

/-- A reading: how far the present value is read, the brackets that it stands in, innermost first, and those
around all. -/
structure State where
  place : Place
  frame : Frame
  around : List Frame
  deriving DecidableEq, Repr

def State.initial : State := ⟨.start, .opened none .start, []⟩

/-- The most brackets that may be open. -/
def bracketLimit : Nat := 200

/-- The place after a value of that kind. -/
def Place.take? (place : Place) (kind : Kind) : Option Place :=
  match place, kind with
  | .start, kind => some (.value kind)
  | .sign, .number imaginary => some (.value (.signed imaginary))
  | .sum, .number true => some (.value .plain)
  | _, _ => none

/-- The kind of the value that ends here, if one does. -/
def Place.kind? : Place → Option Kind
  | .value kind => some kind
  | .string _ => some .plain
  | _ => none

/-- The place after a sign: before a number, or between the parts of a sum. -/
def Place.sign? : Place → Option Place
  | .start => some .sign
  | .value (.number false) | .value (.signed false) => some .sum
  | _ => none

/-- The frame with one more value. A key has to wait for its value, and what is no key may be none of a
set. -/
def Frame.add? (frame : Frame) (kind : Kind) : Option Frame :=
  let unkeyed := kind == .unkeyed
  if frame.table && !frame.waiting then none
  else if frame.bracket == some '\x7b' && !frame.table && unkeyed then none
  else some { frame with
    done := frame.done + 1, holdsUnkeyed := frame.holdsUnkeyed || unkeyed, waiting := false }

/-- The kind of what the brackets hold in all, the present value included. -/
def State.closed? (state : State) : Option Kind :=
  let brace := state.frame.bracket == some '\x7b'
  match state.place, state.place.kind? with
  | .start, _ =>
    if state.frame.waiting then none
    else some (if brace || state.frame.holdsUnkeyed then .unkeyed else .plain)
  | _, some kind =>
    (state.frame.add? kind).map fun frame =>
      if brace || frame.holdsUnkeyed then .unkeyed
      else if frame.done = 1 then kind
      else .plain
  | _, none => none

def State.next? (state : State) : Token → Option State
  | .number imaginary => (state.place.take? (.number imaginary)).map ({ state with place := · })
  | .string bytes =>
    match state.place with
    | .start => some { state with place := .string bytes }
    | .string same => if same = bytes then some state else none
    | _ => none
  | .word name =>
    if ["True", "False", "None"].contains name then
      (state.place.take? .plain).map ({ state with place := · })
    else none
  | .emptySet => (state.place.take? .unkeyed).map ({ state with place := · })
  | .dots => (state.place.take? .plain).map ({ state with place := · })
  | .mark c =>
    if c == '+' || c == '-' then state.place.sign?.map ({ state with place := · })
    else if c == ',' then do
      let frame ← state.frame.add? (← state.place.kind?)
      return { state with place := .start, frame }
    else if c == ':' then do
      let kind ← state.place.kind?
      let fits := state.frame.bracket == some '\x7b' && (state.frame.table || state.frame.done == 0)
      if fits && !state.frame.waiting && kind != .unkeyed then
        return { state with place := .start, frame := { state.frame with table := true, waiting := true } }
      else none
    else if c == '(' || c == '\x7b' then
      if (state.place.take? (.number true)).isSome && state.around.length < bracketLimit then
        some ⟨.start, .opened (some c) state.place, state.frame :: state.around⟩
      else none
    else
      match state.around with
      | outer :: around => do
        let opening := if c == ')' then '(' else '\x7b'
        if state.frame.bracket == some opening then
          let place ← state.frame.before.take? (← state.closed?)
          return ⟨place, outer, around⟩
        else none
      | [] => none

def isValues (chars : List Char) : Bool :=
  match (tokens? 0 chars.length chars).bind fun tokens =>
      (joinSets tokens).foldlM State.next? State.initial with
  | some state => state.around.isEmpty && (state.place != .start || state.frame.done != 0) &&
      state.closed?.isSome
  | none => false

/-- Whether a character may stand in the name of what a tag calls. -/
def isNamePart (c : Char) : Bool := isIdentifierPart c || c == '.'

/-- Whether the parameters of a tag are fit: the name of what it calls, with or without values in brackets,
or just values. -/
def isFit (parameters : String) : Bool :=
  let chars := trimWith isBlank parameters.toList
  match chars.dropWhile isNamePart with
  | [] => true
  | '(' :: rest =>
    if rest.getLast? == some ')' && !rest.contains '\n' then isValues ('(' :: rest) else isValues chars
  | _ => isValues chars

end ViewModel.Terminal.Parameter
