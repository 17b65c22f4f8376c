import ToolPipeline.OrderedMap
import ToolPipeline.Text.Utf8

set_option autoImplicit false

/-!
A tree of files and directories, and the reasons why an operation on it fails.
-/

namespace ToolPipeline

inductive FileError where
  | missing
  | exists
  | notADirectory
  | isADirectory
  | nameTooLong
  | nulInPath
  | notRegular
  deriving DecidableEq, Repr

namespace FileError

def reason : FileError → String
  | .missing => "No such file or directory"
  | .exists => "File exists"
  | .notADirectory => "Not a directory"
  | .isADirectory => "Is a directory"
  | .nameTooLong => "File name too long"
  | .nulInPath => "file name contained an unexpected NUL byte"
  | .notRegular => "the source path is neither a regular file nor a symlink to a regular file"

/-- The error number of the operating system. What is refused without asking it has none. -/
def code? : FileError → Option Nat
  | .missing => some 2
  | .exists => some 17
  | .notADirectory => some 20
  | .isADirectory => some 21
  | .nameTooLong => some 36
  | .nulInPath | .notRegular => none

def message (e : FileError) : String :=
  match e.code? with
  | some n => s!"{e.reason} (os error {n})"
  | none => e.reason

end FileError

abbrev Location := List String

inductive Device where
  | null
  | zero
  /-- Holds zero bytes without end and has no place for others. -/
  | full
  /-- The stream with that number of the process that looks at it. -/
  | stream (number : Nat)
  deriving DecidableEq, Repr

inductive Entry where
  | file (content : Bytes)
  | directory
  | device (d : Device)
  deriving DecidableEq, Repr

/-- The entries below the root, and the directory from which relative paths start.
The root itself is always a directory. -/
structure FileTree where
  entries : OrderedMap Location Entry
  current : Location
  deriving DecidableEq, Repr

namespace FileTree

def entry? (t : FileTree) (l : Location) : Option Entry :=
  if l.isEmpty then some .directory else t.entries.get? l

def isDirectoryAt (t : FileTree) (l : Location) : Bool := t.entry? l == some .directory

def content? (t : FileTree) (l : Location) : Option Bytes :=
  match t.entry? l with
  | some (.file b) => some b
  | _ => none

def put (t : FileTree) (l : Location) (e : Entry) : FileTree := { t with entries := t.entries.insert l e }

def removeAt (t : FileTree) (l : Location) : FileTree :=
  { t with entries := ⟨t.entries.toList.filter fun e => !l.isPrefixOf e.1⟩ }

def below (t : FileTree) (l : Location) : List (Location × Entry) :=
  t.entries.toList.filterMap fun e =>
    if l.isPrefixOf e.1 && l.length < e.1.length then some (e.1.drop l.length, e.2) else none

end FileTree

end ToolPipeline
