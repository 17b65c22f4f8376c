import ToolPipeline.ControlLine.Error
import ToolPipeline.Storage.Reference
import ToolPipeline.Tool.Basic

set_option autoImplicit false

/-!
Everything that running a control line can fail with.
-/

namespace ToolPipeline

inductive StartError where
  | file (e : FileError)
  | nulInArgument
  | argumentTooLong
  | notExecutable
  deriving DecidableEq, Repr

def StartError.message : StartError → String
  | file e => e.message
  | nulInArgument => "nul byte found in provided data"
  | argumentTooLong => "Argument list too long (os error 7)"
  | notExecutable => "Permission denied (os error 13)"

inductive RunError where
  | malformedLine (e : ControlLine.SyntaxError)
  | resolution (e : ResolutionError)
  | localization (e : StorageError)
  | configuration (e : OperationError)
  /-- A stage reported a status other than zero; the output is what was captured up to then. -/
  | execution (status : Int) (output : String)
  | start (cause : StartError)
  deriving DecidableEq, Repr

namespace RunError

def message : RunError → String
  | malformedLine e => e.message
  | resolution e => e.message
  | localization e => e.message
  | configuration e => e.message
  | execution status output => s!"pipeline failed with status {status}: {output}"
  | start cause => "I/O error: " ++ cause.message

def className : RunError → String
  | malformedLine _ => "Syntax"
  | resolution _ => "Resolution"
  | localization _ => "Localization"
  | configuration _ => "Configuration"
  | execution .. => "Execution"
  | start _ => "Io"

end RunError

/-- Why something ends without an answer: it fails, or it breaks down. -/
inductive Stop (ε : Type) where
  | error (e : ε)
  | crash (message : String)
  deriving DecidableEq, Repr

def Stop.map {ε δ : Type} (rename : ε → δ) : Stop ε → Stop δ
  | error e => .error (rename e)
  | crash m => .crash m

abbrev Abort := Stop RunError

end ToolPipeline
