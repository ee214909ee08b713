import ViewModel.Command.Form
import ViewModel.Files.FileSystem
import ViewModel.Number.Token
import ViewModel.Text.Similar

/-!
# Command lines

The words of a command line are flags, their values, and arguments. Flags with one letter may be joined,
and the last of them may be joined to its value; the value of a long flag may follow an equals sign. After
`--` all words are arguments. Values are checked in the order in which they were given, those of flags
before those of arguments.
-/

namespace ViewModel.Command

open Files Text

inductive Refusal
  | noCount (text : String)
  | negative (n : Int)
  | noDirectory (text : String)
  | notDirectory (text : String)
  | notReadable (text : String)
  | noPath (error : Files.Error)
  deriving DecidableEq, Repr

def Refusal.message : Refusal → String
  | noCount text => quoted text ++ " is not a valid integer range."
  | negative n => toString n ++ " is not in the range x>=0."
  | noDirectory text => "Directory " ++ quoted text ++ " does not exist."
  | notDirectory text => "Directory " ++ quoted text ++ " is a file."
  | notReadable text => "Directory " ++ quoted text ++ " is not readable."
  | noPath error => error.message

inductive LineError
  | unknownFlag (name : String) (similar : List String)
  | unknownCommand (name : String) (similar : List String)
  | valueMissing (flag : String)
  | valueUnwanted (flag : String)
  | argumentMissing (name : String)
  | argumentsLeft (words : List String)
  | refused (parameter : String) (refusal : Refusal)
  deriving DecidableEq, Repr

/-- What is said about names that may have been meant. -/
def suggestion : List String → String
  | [] => ""
  | [name] => " Did you mean " ++ quoted name ++ "?"
  | names => " (Did you mean one of: " ++ ", ".intercalate (names.map quoted) ++ "?)"

def LineError.message : LineError → String
  | unknownFlag name similar => "No such option " ++ quoted name ++ "." ++ suggestion similar
  | unknownCommand name similar => "No such command " ++ quoted name ++ "." ++ suggestion similar
  | valueMissing flag => "Option " ++ quoted flag ++ " requires an argument."
  | valueUnwanted flag => "Option " ++ quoted flag ++ " does not take a value."
  | argumentMissing name => "Missing argument " ++ quoted name ++ "."
  | argumentsLeft [word] => "Got unexpected extra argument (" ++ word ++ ")"
  | argumentsLeft words => "Got unexpected extra arguments (" ++ " ".intercalate words ++ ")"
  | refused parameter refusal => "Invalid value for " ++ parameter ++ ": " ++ refusal.message

def LineError.recallsUsage : LineError → Bool
  | valueMissing _ | valueUnwanted _ => false
  | _ => true

/-- What a command line gives: flags with their values, in order, and the other words. -/
structure Given where
  flags : List (Flag × Option String) := []
  words : List String := []
  deriving DecidableEq, Repr

/-! ## Reading -/

def isFlagWord (word : String) : Bool :=
  match word.toList with
  | '-' :: _ :: _ => true
  | _ => false

/-- Whether a name is that of a long flag: all but a dash and a letter. -/
def isLong (name : String) : Bool := 2 < name.length

def Form.flag? (form : Form) (name : String) : Option Flag :=
  form.flags.find? fun flag => flag.names.contains name

def Form.longNames (form : Form) : List String :=
  (form.flags.flatMap Flag.names).filter isLong

/-- A flag with its value, which is `own` if it stands in the same word, and else the `next` word. The
second result is whether that was used. -/
def withValue (flag : Flag) (name : String) (own next : Option String) :
    Except LineError ((Flag × Option String) × Bool) :=
  match flag.value, own, next with
  | none, _, _ => .ok ((flag, none), false)
  | some _, some value, _ => .ok ((flag, some value), false)
  | some _, none, some value => .ok ((flag, some value), true)
  | some _, none, none => .error (.valueMissing name)

def Form.readLetters (form : Form) (next : Option String) :
    List Char → Except LineError (List (Flag × Option String) × Bool)
  | [] => .ok ([], false)
  | letter :: rest => do
    let name := String.ofList ['-', letter]
    match form.flag? name with
    | none => .error (.unknownFlag name [])
    | some flag =>
      if flag.value.isSome then
        let (given, used) ← withValue flag name (if rest.isEmpty then none else some (String.ofList rest)) next
        return ([given], used)
      else
        let (others, used) ← form.readLetters next rest
        return ((flag, none) :: others, used)

/-- The flags of a word, and whether the next word was used as a value. -/
def Form.readWord (form : Form) (word : String) (next : Option String) :
    Except LineError (List (Flag × Option String) × Bool) :=
  let name := String.ofList (word.toList.takeWhile (· != '='))
  let own := ((word.toList.dropWhile (· != '=')).tail?).map String.ofList
  match if isLong name then form.flag? name else none with
  | some flag =>
    if flag.value.isNone && own.isSome then .error (.valueUnwanted name)
    else (withValue flag name own next).map fun (given, used) => ([given], used)
  | none =>
    match word.toList with
    | '-' :: '-' :: _ => .error (.unknownFlag name (similar name form.longNames))
    | _ :: letters => form.readLetters next letters
    | [] => .ok ([], false)

/-- What some words give. A command with commands of its own reads no further than their name. -/
def Form.read (form : Form) : List String → Except LineError Given
  | [] => .ok {}
  | word :: rest =>
    if word = "--" then .ok { words := rest }
    else if isFlagWord word then
      match form.readWord word rest.head? with
      | .error error => .error error
      | .ok (flags, used) =>
        (form.read (if used then rest.tail else rest)).map fun given =>
          { given with flags := flags ++ given.flags }
    else if form.commands.isEmpty then
      (form.read rest).map fun given => { given with words := word :: given.words }
    else .ok { words := word :: rest }
termination_by words => words.length
decreasing_by
  · split
    · simp only [List.length_tail, List.length_cons]; omega
    · simp
  · simp

/-! ## Checking -/

/-- Digits of any script with at most one low line between two of them, the low lines left out. -/
def ungrouped? : List Char → Option (List Char)
  | [] => none
  | [c] => if c = '_' then none else some [c]
  | c :: '_' :: rest => if c = '_' then none else (ungrouped? rest).map (c :: ·)
  | c :: rest => if c = '_' then none else (ungrouped? rest).map (c :: ·)

/-- The integer that a text spells, with blanks around it at will. -/
def integerOf? (text : String) : Option Int :=
  let chars := trimWith isBlank text.toList
  let (_, unsigned) := Number.splitSign chars
  let sign := chars.take (chars.length - unsigned.length)
  (ungrouped? unsigned).bind fun digits => Number.integer? (sign ++ digits)

def ValueKind.check (files : FileSystem) (text : String) : ValueKind → Except Refusal Unit
  | .text => .ok ()
  | .count =>
    match integerOf? text with
    | none => .error (.noCount text)
    | some n => if n < 0 then .error (.negative n) else .ok ()
  | .directory present =>
    match files.locateText text >>= fun place => (files.present place).map (place, ·) with
    | .ok (_, .file _) => .error (.notDirectory text)
    | .ok (place, _) => if files.meets place .unreadable then .error (.notReadable text) else .ok ()
    | .error .zeroCharacter => .error (.noPath ⟨.zeroCharacter, Path.ofText text⟩)
    | .error _ => if present then .error (.noDirectory text) else .ok ()

def Given.value? (given : Given) (name : String) : Option String :=
  ((given.flags.reverse.find? fun (flag, _) => flag.names.contains name).bind (·.2))

def Given.has (given : Given) (name : String) : Bool :=
  given.flags.any fun (flag, _) => flag.names.contains name

def Given.checkFlags (given : Given) (files : FileSystem) : Except LineError Unit :=
  (given.flags.map (·.1)).eraseDups.forM fun flag =>
    match flag.value, flag.names.head?.bind given.value? with
    | some kind, some text =>
      (kind.check files text).mapError (.refused (" / ".intercalate (flag.names.map quoted)))
    | _, _ => .ok ()

def checkArguments (files : FileSystem) : List Argument → List String → Except LineError Unit
  | [], _ => .ok ()
  | argument :: others, word :: words => do
    (argument.value.check files word).mapError (.refused (quoted argument.name))
    checkArguments files others words
  | argument :: others, [] =>
    if argument.required then .error (.argumentMissing argument.name) else checkArguments files others []

def Form.check (form : Form) (files : FileSystem) (given : Given) : Except LineError Unit := do
  given.checkFlags files
  checkArguments files form.arguments given.words
  match given.words.drop form.arguments.length with
  | [] => .ok ()
  | left => .error (.argumentsLeft left)

end ViewModel.Command
