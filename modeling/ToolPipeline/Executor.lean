import ToolPipeline.Failure

set_option autoImplicit false

/-!
What runs the commands of tool stages.
-/

namespace ToolPipeline

/-- What a stage leaves: a status, which is zero for success, and what it wrote. -/
structure StageOutput where
  status : Int
  stdout : Bytes
  stderr : Bytes
  deriving DecidableEq, Repr

def StageOutput.succeeded (o : StageOutput) : Bool := o.status == 0

def StageOutput.success (stdout : Bytes) : StageOutput := ⟨0, stdout, []⟩

structure Executor (σ : Type) where
  kind : String
  run : (commandLine workingDir : String) → (stdin : Bytes) → Action σ Abort StageOutput

end ToolPipeline
