import ViewModel.Files.Path
import ViewModel.Text.Quoted

/-!
# File systems

Directories, files and links under their places. Every operation says why it failed in the words of an
operating system, and a failed one changes nothing. What stands at a place need not be open to all uses:
some may be forbidden there, and what a file holds may be lost.

* `lookup?_put`: a put is seen at its own place and changes no other;
* `lookup?_erase`: what is erased is gone, and nothing else is.
-/

namespace ViewModel.Files

/-- A place: the names on the way down from the root. -/
abbrev Location := List String

/-- What stands at a place. -/
inductive Entry
  | directory
  | file (content : List UInt8)
  | link (target : String)
  deriving DecidableEq, Repr

/-- What stands in the way at a place: it may not be read, nothing may be written there, nothing may be looked
up below it, or its content is lost. -/
inductive Obstacle
  | unreadable
  | unwritable
  | impassable
  | damaged
  deriving DecidableEq, Repr

inductive Cause
  | missing
  | damaged
  | denied
  | occupied
  | notDirectory
  | isDirectory
  | nameTooLong
  | tooManyLinks
  | zeroCharacter
  deriving DecidableEq, Repr

/-- A failed operation, and the path it was asked for. -/
structure Error where
  cause : Cause
  path : Path
  deriving DecidableEq, Repr

/-- The number of a cause that the operating system tells; a path with the character zero in it does not
get that far. -/
def Cause.number? : Cause → Option Nat
  | missing => some 2
  | damaged => some 5
  | denied => some 13
  | occupied => some 17
  | notDirectory => some 20
  | isDirectory => some 21
  | nameTooLong => some 36
  | tooManyLinks => some 40
  | zeroCharacter => none

def Cause.message : Cause → String
  | missing => "No such file or directory"
  | damaged => "Input/output error"
  | denied => "Permission denied"
  | occupied => "File exists"
  | notDirectory => "Not a directory"
  | isDirectory => "Is a directory"
  | nameTooLong => "File name too long"
  | tooManyLinks => "Too many levels of symbolic links"
  | zeroCharacter => "embedded null byte"

def Cause.kind : Cause → String
  | missing => "FileNotFoundError"
  | denied => "PermissionError"
  | occupied => "FileExistsError"
  | notDirectory => "NotADirectoryError"
  | isDirectory => "IsADirectoryError"
  | damaged | nameTooLong | tooManyLinks => "OSError"
  | zeroCharacter => "ValueError"

/-- Whether a failure to find what a path leads to leaves it open what that is. -/
def Cause.leavesOpen : Cause → Bool
  | nameTooLong | denied => true
  | _ => false

/-- What is told about a failure. What goes wrong once a file is open is told without its path. -/
def Error.message (error : Error) : String :=
  match error.cause.number? with
  | some number =>
    "[Errno " ++ toString number ++ "] " ++ error.cause.message ++
      if error.cause = .damaged then "" else ": " ++ Text.quoted error.path.text
  | none => error.cause.message

/-- A file system, the directory where paths without a root start, and what stands in the way where. -/
structure FileSystem where
  entries : List (Location × Entry) := []
  here : Location := []
  obstacles : List (Location × Obstacle) := []
  deriving Repr

namespace FileSystem

/-- What stands at a place; the root is always a directory. -/
def lookup? (files : FileSystem) (place : Location) : Option Entry :=
  if place = [] then some .directory else files.entries.lookup place

/-- Whether an obstacle is met at a place. -/
def meets (files : FileSystem) (place : Location) (obstacle : Obstacle) : Bool :=
  files.obstacles.contains (place, obstacle)

def erase (files : FileSystem) (place : Location) : FileSystem :=
  { files with entries := files.entries.filter (·.1 != place) }

def put (files : FileSystem) (place : Location) (entry : Entry) : FileSystem :=
  { files with entries := (place, entry) :: (files.erase place).entries }

theorem lookup_filter_ne (entries : List (Location × Entry)) (place other : Location) :
    (entries.filter (·.1 != place)).lookup other =
      if other = place then none else entries.lookup other := by
  induction entries with
  | nil => simp
  | cons entry rest ih =>
    obtain ⟨key, value⟩ := entry
    by_cases gone : key = place
    · rw [List.filter_cons_of_neg (by simp [gone]), ih]
      by_cases same : other = place
      · simp [same]
      · have apart : (other == key) = false := by simpa [gone] using same
        simp [List.lookup_cons, apart, same]
    · rw [List.filter_cons_of_pos (by simp [gone]), List.lookup_cons, List.lookup_cons, ih]
      by_cases same : other = place
      · have apart : (place == key) = false := by simpa using fun h => gone h.symm
        simp [same, apart]
      · simp [same]

theorem lookup?_erase (files : FileSystem) {place : Location} (other : Location)
    (inside : place ≠ []) :
    (files.erase place).lookup? other = if other = place then none else files.lookup? other := by
  by_cases top : other = []
  · simp [lookup?, top, inside.symm]
  · simp [lookup?, erase, top, lookup_filter_ne]

theorem lookup?_put (files : FileSystem) {place : Location} (entry : Entry) (other : Location)
    (inside : place ≠ []) :
    (files.put place entry).lookup? other = if other = place then some entry else files.lookup? other := by
  by_cases top : other = []
  · simp [lookup?, top, inside.symm]
  · by_cases same : other = place
    · simp [lookup?, put, same, inside]
    · have apart : (other == place) = false := by simpa using same
      simp [lookup?, put, erase, top, List.lookup_cons, apart, lookup_filter_ne, same]

/-! ## Finding places -/

/-- The most bytes that a name may have. -/
def nameLimit : Nat := 255

/-- The most bytes that the text of a path may have. -/
def pathLimit : Nat := 4095

/-- A text that may be looked up as a path. -/
def checkText (text : String) : Except Cause Unit :=
  if text.toList.contains '\x00' then .error .zeroCharacter
  else if pathLimit < text.utf8ByteSize then .error .nameTooLong
  else .ok ()

/-- How many links a path may lead through. -/
def linkLimit : Nat := 40

/-- Where a path starts: at the root, or at the place that relative paths start from. -/
def start (path : Path) (relative : Location) : Location :=
  if path.root == "" then relative else []

/-- Where some steps lead from a place, through directories that may be passed. Links on the way are followed,
as many as `links` of them. The last step may lead to where nothing stands yet. -/
def walk (files : FileSystem) (links : Nat) (place : Location) (steps : List String) :
    Except Cause Location :=
  match steps with
  | [] => .ok place
  | step :: rest =>
    match files.lookup? place with
    | none => .error .missing
    | some .directory =>
      if files.meets place .impassable then .error .denied
      else if step = "." then files.walk links place rest
      else if step = ".." then files.walk links place.dropLast rest
      else if nameLimit < step.utf8ByteSize then .error .nameTooLong
      else
        match files.lookup? (place ++ [step]) with
        | some (.link target) =>
          match links with
          | 0 => .error .tooManyLinks
          | links + 1 =>
            let path := Path.ofText target
            files.walk links (start path place) (path.parts ++ rest)
        | _ => files.walk links (place ++ [step]) rest
    | some _ => .error .notDirectory
termination_by (links, steps.length)

/-- The place that a path names. -/
def locate (files : FileSystem) (path : Path) : Except Cause Location := do
  checkText path.text
  files.walk linkLimit (start path files.here) path.parts

/-- The place that a path names, without following a link that stands there. -/
def locateLink (files : FileSystem) (path : Path) : Except Cause Location :=
  match path.parts.getLast? with
  | none => files.locate path
  | some last => do
    checkText path.text
    let above ← files.locate { path with parts := path.parts.dropLast }
    match files.lookup? above with
    | none => .error .missing
    | some .directory =>
      if files.meets above .impassable then .error .denied
      else if last = ".." then .ok above.dropLast
      else if nameLimit < last.utf8ByteSize then .error .nameTooLong
      else .ok (above ++ [last])
    | some _ => .error .notDirectory

/-- What stands at a place that has to be there. -/
def present (files : FileSystem) (place : Location) : Except Cause Entry :=
  match files.lookup? place with
  | none => .error .missing
  | some entry => .ok entry

/-- What a path leads to. -/
def stat (files : FileSystem) (path : Path) : Except Cause Entry :=
  files.locate path >>= files.present

/-- The place that a text names as it is spelled: an empty one names none, and one that ends in a slash or a
dot only a directory. -/
def locateText (files : FileSystem) (text : String) : Except Cause Location :=
  let path := Path.ofText text
  let last := (Path.stretches text.toList).getLast?.getD []
  if text.isEmpty then .error .missing
  else do
    checkText text
    files.walk linkLimit (start path files.here)
      (if Path.isStep last then path.parts else path.parts ++ ["."])

/-- Whether a path leads to what is asked for. It does not if it leads nowhere, but nothing can be said of a
path with too long a name, or through a directory that may not be passed. -/
def leadsTo (files : FileSystem) (asked : Entry → Bool) (path : Path) : Except Error Bool :=
  match files.stat path with
  | .ok entry => .ok (asked entry)
  | .error cause => if cause.leavesOpen then .error ⟨cause, path⟩ else .ok false

def isDirectory (files : FileSystem) (path : Path) : Except Error Bool :=
  files.leadsTo (fun entry => entry matches .directory) path

def isFile (files : FileSystem) (path : Path) : Except Error Bool :=
  files.leadsTo (fun entry => entry matches .file _) path

/-! ## Reading -/

def contentAt (files : FileSystem) (place : Location) : Except Cause (List UInt8) :=
  match files.lookup? place with
  | none => .error .missing
  | some (.link _) => .error .tooManyLinks
  | some .directory => if files.meets place .unreadable then .error .denied else .error .isDirectory
  | some (.file content) =>
    if files.meets place .unreadable then .error .denied
    else if files.meets place .damaged then .error .damaged
    else .ok content

def read (files : FileSystem) (path : Path) : Except Error (List UInt8) :=
  (files.locate path >>= files.contentAt).mapError (⟨·, path⟩)

/-- The names in order of their characters. -/
def sorted (names : List String) : List String :=
  names.mergeSort fun a b => !decide (b < a)

/-- The names of what stands right below a place, in order. -/
def children (files : FileSystem) (place : Location) : List String :=
  sorted ((files.entries.filter fun entry => entry.1 != [] && entry.1.dropLast == place).filterMap
    fun entry => entry.1.getLast?)

/-- The names of a directory's entries, in order. -/
def list (files : FileSystem) (path : Path) : Except Error (List String) :=
  match files.locate path with
  | .error cause => .error ⟨cause, path⟩
  | .ok place =>
    match files.lookup? place with
    | some .directory =>
      if files.meets place .unreadable then .error ⟨.denied, path⟩ else .ok (files.children place)
    | some _ => .error ⟨.notDirectory, path⟩
    | none => .error ⟨.missing, path⟩

/-- The files of a directory whose names have a suffix, in order of their names. -/
def listFiles (files : FileSystem) (directory : Path) (suffix : String) : Except Error (List Path) := do
  let names ← files.list directory
  let found ← (names.map directory.child).filterM files.isFile
  return found.filter (·.suffix == suffix)

/-! ## Writing -/

/-- Whether a directory may get new entries, and lose those it has. -/
def permitsChange (files : FileSystem) (directory : Location) : Bool := !files.meets directory .unwritable

/-- Whether a file at a place may be written. Where none is, its directory has to permit a new one. -/
def permitsWriting (files : FileSystem) (place : Location) : Bool :=
  !files.meets place .unwritable && ((files.lookup? place).isSome || files.permitsChange place.dropLast)

/-- The file system with that content in a file, which may be new. -/
def write (files : FileSystem) (path : Path) (content : List UInt8) : Except Error FileSystem :=
  match files.locate path with
  | .error cause => .error ⟨cause, path⟩
  | .ok place =>
    match files.lookup? place with
    | some .directory => .error ⟨.isDirectory, path⟩
    | _ =>
      if files.permitsWriting place then .ok (files.put place (.file content)) else .error ⟨.denied, path⟩

/-- The file system with more content at the end of the file at a place. -/
def append (files : FileSystem) (place : Location) (content : List UInt8) : FileSystem :=
  match files.lookup? place with
  | some (.file old) => files.put place (.file (old ++ content))
  | _ => files.put place (.file content)

/-- The file system without the file or link of that path. -/
def remove (files : FileSystem) (path : Path) : Except Error FileSystem :=
  match files.locateLink path with
  | .error cause => .error ⟨cause, path⟩
  | .ok place =>
    match files.lookup? place with
    | none => .error ⟨.missing, path⟩
    | some entry =>
      if files.permitsChange place.dropLast then
        match entry with
        | .directory => .error ⟨.isDirectory, path⟩
        | _ => .ok (files.erase place)
      else .error ⟨.denied, path⟩

/-- The file system with something new at a path, where nothing may stand. -/
def create (files : FileSystem) (path : Path) (entry : Entry) : Except Error FileSystem :=
  match files.locateLink path with
  | .error cause => .error ⟨cause, path⟩
  | .ok place =>
    match files.lookup? place with
    | some _ => .error ⟨.occupied, path⟩
    | none =>
      if files.permitsChange place.dropLast then .ok (files.put place entry) else .error ⟨.denied, path⟩

/-- Whether a directory is at a path where none could be made, and otherwise why. -/
def settle (files : FileSystem) (path : Path) (error : Error) : Except Error Unit :=
  match files.isDirectory path with
  | .ok true => .ok ()
  | .ok false => .error error
  | .error other => .error other

/-- The file system with a directory at a path whose directory is there. -/
def ensureOne (files : FileSystem) (path : Path) : Except Error FileSystem :=
  match files.create path .directory with
  | .ok made => .ok made
  | .error error => (files.settle path error).map fun _ => files

/-- The file system with a directory at the path of some steps, last one first, and at those above it.
Those that could be made stay, whatever comes of the others. -/
def ensure (files : FileSystem) (root : String) : List String → Except Error Unit × FileSystem
  | [] => (.ok (), files)
  | name :: above =>
    let path : Path := ⟨root, (name :: above).reverse⟩
    match files.create path .directory with
    | .ok made => (.ok (), made)
    | .error error =>
      if error.cause = .missing then
        match files.ensure root above with
        | (.error error, made) => (.error error, made)
        | (.ok (), made) =>
          match made.ensureOne path with
          | .ok made => (.ok (), made)
          | .error error => (.error error, made)
      else (files.settle path error, files)

/-- The file system with a directory at the path, and those above it. -/
def makeDirectories (files : FileSystem) (path : Path) : Except Error Unit × FileSystem :=
  files.ensure path.root path.parts.reverse

end FileSystem

end ViewModel.Files
