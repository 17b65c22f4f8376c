import ToolPipeline.FileTree.Basic
import ToolPipeline.Path

set_option autoImplicit false

/-!
References to files. A reference is a path on this machine or, behind a scheme, a path in a named
storage area.
-/

namespace ToolPipeline

inductive StorageError where
  | notFound (reference : String)
  | unknownScheme (scheme reference : String)
  | invalidReference (reference : String)
  | fileError (reference : String) (cause : FileError)
  deriving DecidableEq, Repr

namespace StorageError

def message : StorageError → String
  | notFound reference => s!"file reference '{reference}' does not exist"
  | unknownScheme scheme reference => s!"storage scheme '{scheme}' is not configured (reference '{reference}')"
  | invalidReference reference => s!"invalid file reference '{reference}'"
  | fileError reference cause => s!"I/O error on '{reference}': " ++ cause.message

def ofFileError (reference : String) (cause : FileError) : StorageError :=
  if cause = .missing then .notFound reference else .fileError reference cause

end StorageError

inductive Reference where
  | onMachine (path : String)
  | remote (scheme path : String)
  deriving DecidableEq, Repr

namespace Reference

def schemeMark : List Char := [':', '/', '/']

def machineScheme : List Char := ['f', 'i', 'l', 'e']

def isSchemeChar (c : Char) : Bool := c.isAlphanum || c == '+' || c == '.' || c == '_'

/-- Takes a reference apart at its first scheme mark. Slashes in front of a remote path are dropped, and
a remote path is neither empty nor has it a component of two dots. -/
def parse (reference : String) : Except StorageError Reference :=
  match Text.cut schemeMark reference.toList with
  | none => if reference.isEmpty then .error (.invalidReference reference) else .ok (.onMachine reference)
  | some (scheme, rest) =>
    if scheme.isEmpty || !scheme.all isSchemeChar then .error (.invalidReference reference)
    else if scheme == machineScheme then
      if rest.isEmpty then .error (.invalidReference reference) else .ok (.onMachine (String.ofList rest))
    else
      let path := String.ofList (rest.dropWhile (· == '/'))
      if path.isEmpty || (Path.components path).contains .up then .error (.invalidReference reference)
      else .ok (.remote (String.ofList scheme) path)

def isOnMachine : Reference → Bool
  | onMachine _ => true
  | remote .. => false

/-- Puts a relative path on this machine behind the working directory. An absolute path loses its
scheme, and a remote reference stays as it is. -/
def anchor (workingDir reference : String) : Except StorageError String :=
  match parse reference with
  | .error e => .error e
  | .ok (.onMachine path) => .ok (if Path.isAbsolute path then path else Path.join workingDir path)
  | .ok (.remote ..) => .ok reference

end Reference

end ToolPipeline
