import Renko.Text

/-! # Files without a disk

Paths, and a tree of files that they lead into.
-/

/-! ## Paths

A path is a text cut at its slashes. A piece that is empty or a single dot leads nowhere; every
other piece is a name, two dots included. The directories above a path are written as the path is,
cut off after one of its names.
-/

namespace Renko

/-- A path as the pieces between its slashes. -/
structure Path where
  pieces : List String
  deriving DecidableEq

namespace Path

def read (text : String) : Path := ⟨(Text.split '/' text.toList).map String.ofList⟩

def text (path : Path) : String := "/".intercalate path.pieces

/-- Whether a path starts at the root, with a slash. -/
def fromRoot (path : Path) : Bool :=
  match path.pieces with
  | first :: _ :: _ => first.isEmpty
  | _ => false

def endsInSlash (path : Path) : Bool :=
  match path.pieces.reverse with
  | last :: _ :: _ => last.isEmpty
  | _ => false

/-- The pieces that are looked at on the way: slashes next to one another count as one. -/
def steps (path : Path) : List String := path.pieces.filter (!·.isEmpty)

/-- Whether a piece leads nowhere. -/
def isIdle (piece : String) : Bool := piece.isEmpty || piece == "."

/-- The paths that end in a name, the longest first, of pieces that are held last first. -/
def trailOf : List String → List Path
  | [] => []
  | piece :: before =>
    if isIdle piece then trailOf before else ⟨(piece :: before).reverse⟩ :: trailOf before

/-- A path up to its last name, and the directories above it, the nearest first. -/
def trail (path : Path) : List Path := trailOf path.pieces.reverse

/-- The directories above a path, the nearest first, but for the one it starts from. -/
def directories (path : Path) : List Path := path.trail.tail

end Path

/-! ## A tree of files

Files and directories by name, with a home directory that relative paths start from. It serves where
a run is to be followed without a disk. What a path leads to, and why it may lead nowhere, are as on
a disk: every name before the last one must be that of a directory, two dots lead back, and a slash
at the end asks for a directory.
-/

/-- Why a path cannot be used. -/
inductive StorageFault
  | missing
  | present
  | notDirectory
  | isDirectory
  | nameTooLong
  | zeroInName
  deriving DecidableEq

namespace StorageFault

def message : StorageFault → String
  | missing => "No such file or directory (os error 2)"
  | present => "File exists (os error 17)"
  | notDirectory => "Not a directory (os error 20)"
  | isDirectory => "Is a directory (os error 21)"
  | nameTooLong => "File name too long (os error 36)"
  | zeroInName => "file name contained an unexpected NUL byte"

end StorageFault

/-- What a path leads to. -/
inductive StorageEntry
  | file (bytes : List UInt8)
  | directory

/-- Directories and files, each under the names that lead to it from the root, the newest first. The
root itself is not listed. -/
structure Storage where
  home : List String
  directories : List (List String)
  files : List (List String × List UInt8)

namespace Storage

def isDirectory (storage : Storage) (names : List String) : Bool :=
  names.isEmpty || storage.directories.contains names

/-- The bytes of the file that names lead to. -/
def file? (storage : Storage) (names : List String) : Option (List UInt8) :=
  storage.files.lookup names

/-- Where a path starts. -/
def origin (storage : Storage) (path : Path) : List String :=
  if path.fromRoot then [] else storage.home

/-- A name of at most 255 bytes under a directory; dots stay or lead back. -/
def child (directory : List String) (name : String) : Except StorageFault (List String) :=
  if name = "." then .ok directory
  else if name = ".." then .ok directory.dropLast
  else if 255 < name.utf8ByteSize then .error .nameTooLong
  else .ok (directory ++ [name])

def enter (storage : Storage) (directory : List String) (name : String) :
    Except StorageFault (List String) := do
  let names ← child directory name
  if storage.isDirectory names then return names
  else if (storage.file? names).isSome then throw .notDirectory
  else throw .missing

/-- What no path may look like, whatever is stored. -/
def check (path : Path) : Except StorageFault Unit :=
  if path.text.toList.contains '\x00' then .error .zeroInName
  else if 4096 ≤ path.text.utf8ByteSize then .error .nameTooLong
  else .ok ()

/-- The directory that all steps of a path but the last lead to. -/
def approach (storage : Storage) (path : Path) : Except StorageFault (List String) := do
  check path
  path.steps.dropLast.foldlM storage.enter (storage.origin path)

/-- The names that a path leads to: the last step is looked up where the others lead. -/
def locate (storage : Storage) (path : Path) : Except StorageFault (List String) := do
  let directory ← storage.approach path
  match path.steps.getLast? with
  | some last => child directory last
  | none => if path.fromRoot then return directory else throw .missing

/-- What a path leads to. -/
def look (storage : Storage) (path : Path) : Except StorageFault StorageEntry := do
  let names ← storage.locate path
  if storage.isDirectory names then return .directory
  else
    match storage.file? names with
    | none => throw .missing
    | some bytes => if path.endsInSlash then throw .notDirectory else return .file bytes

/-- Makes one directory, where there is nothing yet. -/
def makeDirectory (storage : Storage) (path : Path) : Except StorageFault Storage := do
  let names ← storage.locate path
  if storage.isDirectory names || (storage.file? names).isSome then throw .present
  else return { storage with directories := names :: storage.directories }

/-- Takes it well that a directory is there already. -/
def allowPresent (storage : Storage) (path : Path) :
    Except StorageFault Storage → Except StorageFault Storage
  | .ok made => .ok made
  | .error fault =>
    match storage.look path with
    | .ok .directory => .ok storage
    | _ => .error fault

/-- Makes a directory and those above it where they are missing. They are given nearest first. -/
def makeDirectories (storage : Storage) : List Path → Except StorageFault Storage
  | [] => .ok storage
  | path :: above =>
    match storage.makeDirectory path with
    | .error .missing =>
      match makeDirectories storage above with
      | .ok storage => storage.allowPresent path (storage.makeDirectory path)
      | .error fault => .error fault
    | result => storage.allowPresent path result

/-- Writes a file in a directory that is there. A slash at the end is refused before the last step
is looked up. -/
def writeFile (storage : Storage) (path : Path) (bytes : List UInt8) :
    Except StorageFault Storage := do
  discard (storage.approach path)
  if path.endsInSlash then throw .isDirectory
  let names ← storage.locate path
  if storage.isDirectory names then throw .isDirectory
  return { storage with files := (names, bytes) :: storage.files.filter (·.1 != names) }

/-- Reads what a path leads to. -/
def read (storage : Storage) (path : String) : Except StorageFault StorageEntry :=
  storage.look (.read path)

/-- Saves a file and makes the directories above it. -/
def save (storage : Storage) (path : String) (bytes : List UInt8) :
    Except StorageFault Storage := do
  let path := Path.read path
  let storage ← storage.makeDirectories path.directories
  storage.writeFile path bytes

/-- A home directory with nothing in it. -/
def empty : Storage := ⟨["home"], [["home"]], []⟩

/-- Adds a file by its path from home; a path that ends in a slash adds a directory. -/
def add (storage : Storage) (path : String) (bytes : List UInt8) : Except StorageFault Storage :=
  let read := Path.read path
  if read.endsInSlash then storage.makeDirectories read.trail
  else storage.save path bytes

/-- The files at home that are new or hold other bytes than before, by their paths from home. -/
def changes (before after : Storage) : List (String × List UInt8) :=
  (after.files.filter fun (names, bytes) =>
      after.home.isPrefixOf names && before.file? names != some bytes).map
    fun (names, bytes) => ("/".intercalate (names.drop after.home.length), bytes)

end Storage

end Renko
