/-! A file system as a value.

    Files and directories are known by their absolute paths, as lists of names. Every directory on
    the way to one of them exists too. A relative path starts at the working directory; in any path
    an empty name and a dot mean nothing, and two dots lead one level up. Whatever comes after a
    slash is looked for in a directory that exists, so a slash at the end is for directories only.
    The empty path names nothing, and neither does one that is too long or has too long a name.

    A file that is there need not be readable: its bytes may be no text, or it may be refused. -/

namespace Introspect

/-- Why a path cannot be followed, or what it names not be read or written. -/
inductive FileFault
  | missing
  | notDirectory
  | tooLong
  | nulByte
  | directory
  | notText
  /-- For a reason that the system gives. -/
  | refused (cause : String)
deriving DecidableEq, Repr

/-- The fault in words. -/
def FileFault.message : FileFault → String
  | missing => "No such file or directory (os error 2)"
  | notDirectory => "Not a directory (os error 20)"
  | tooLong => "File name too long (os error 36)"
  | nulByte => "file name contained an unexpected NUL byte"
  | directory => "Is a directory (os error 21)"
  | notText => "stream did not contain valid UTF-8"
  | refused cause => cause

/-- What a path names. -/
inductive Entry
  | file (text : String)
  /-- A file whose bytes are no text. -/
  | binary
  /-- A file that is neither read nor written, for the reason given. -/
  | locked (cause : String)
  | directory
deriving DecidableEq, Repr

/-- The text of a file, or why there is none. -/
def Entry.text : Entry → Except FileFault String
  | file text => .ok text
  | binary => .error .notText
  | locked cause => .error (.refused cause)
  | directory => .error .directory

/-- Files and directories by their absolute paths, and the working directory. -/
structure FileSystem where
  entries : List (List String × Entry)
  workingDirectory : List String

namespace FileSystem

/-- Where a name leads from a directory. -/
def enter (directory : List String) (name : String) : List String :=
  if name = "" ∨ name = "." then directory
  else if name = ".." then directory.dropLast
  else directory ++ [name]

/-- Follows names from a directory, whether they name anything or not. -/
def follow (start : List String) (names : List String) : List String := names.foldl enter start

/-- The names of a path between its slashes. -/
def names (path : String) : List String := (path.toList.splitOn '/').map String.ofList

/-- The path of a name in a directory. -/
def join (directory name : String) : String :=
  if directory.toList.getLast?.all (· = '/') then directory ++ name else directory ++ "/" ++ name

/-- The directory at which a path starts. -/
def start (fs : FileSystem) (path : String) : List String :=
  if path.startsWith "/" then [] else fs.workingDirectory

/-- What an absolute path names. -/
def lookup (fs : FileSystem) (path : List String) : Option Entry :=
  match fs.entries.find? (·.1 = path) with
  | some e => some e.2
  | none =>
    if path.isPrefixOf fs.workingDirectory || fs.entries.any (path.isPrefixOf ·.1) then
      some .directory
    else none

/-- How many bytes a name may have. -/
def maxNameSize : Nat := 255

/-- How many bytes a path may have. -/
def maxPathSize : Nat := 4095

/-- Follows a name from what must be a directory. -/
def step (fs : FileSystem) (directory : List String) (name : String) :
    Except FileFault (List String) :=
  match fs.lookup directory with
  | none => .error .missing
  | some .directory =>
    if name.utf8ByteSize ≤ maxNameSize then .ok (enter directory name) else .error .tooLong
  | some _ => .error .notDirectory

/-- The absolute path that a path stands for, whether it names something or not. -/
def locate (fs : FileSystem) (path : String) : Except FileFault (List String) :=
  if '\x00' ∈ path.toList then .error .nulByte
  else if path = "" then .error .missing
  else if maxPathSize < path.utf8ByteSize then .error .tooLong
  else (names path).foldlM fs.step (fs.start path)

/-- What a path names. -/
def find (fs : FileSystem) (path : String) : Except FileFault Entry := do
  match fs.lookup (← fs.locate path) with
  | some e => return e
  | none => throw .missing

/-- Whether a path names something. -/
def has (fs : FileSystem) (path : String) : Bool := (fs.find path).isOk

/-- The text of a file. -/
def read (fs : FileSystem) (path : String) : Except FileFault String := do (← fs.find path).text

/-- The file system with a text written to a file. -/
def write (fs : FileSystem) (path text : String) : Except FileFault FileSystem := do
  let target ← fs.locate path
  match fs.lookup target with
  | some .directory => throw .directory
  | some (.locked cause) => throw (.refused cause)
  | _ => return { fs with entries := (target, .file text) :: fs.entries.filter (·.1 ≠ target) }

end FileSystem

end Introspect
