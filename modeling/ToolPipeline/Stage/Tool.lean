import ToolPipeline.Stage.Basic
import ToolPipeline.Stage.Parameters

set_option autoImplicit false

/-!
Stages that run an operation of a tool.
-/

namespace ToolPipeline

structure ToolStage where
  label : String
  operation : Operation
  parameters : Parameters
  workingDir : String
  deriving DecidableEq, Repr

namespace ToolStage

variable {σ : Type}

def ofOperation (tool action : String) (o : Operation) : ToolStage := ⟨tool ++ ":" ++ action, o, .empty, "."⟩

def commandLine (s : ToolStage) : String := s.parameters.commandLine s.operation

/-- Gives the stage parameters in place of all it had. What could be assigned stays when a required one is
missing. -/
def assign (s : ToolStage) (pairs : ParameterMap) : Except OperationError Unit × ToolStage :=
  let (p, missing) := Parameters.assign s.operation pairs
  (match missing with
    | some name => .error (.missingParameter s.label name)
    | none => .ok (), { s with parameters := p })

def assignmentEvents (s : ToolStage) (pairs : ParameterMap) : List Event :=
  (Parameters.undeclared s.operation pairs).map (.undeclaredParameter s.label)

def assignReporting (s : ToolStage) (pairs : ParameterMap) :
    Action σ OperationError Unit × ToolStage :=
  let (r, t) := s.assign pairs
  (do
    (s.assignmentEvents pairs).forM Action.report
    ExceptT.mk (pure r), t)

def run (s : ToolStage) (executor : Executor σ) (stdin : Bytes) : Action σ Abort StageOutput := do
  Action.report (.commandSubstituted s.label s.commandLine)
  executor.run s.commandLine s.workingDir stdin

def stage (s : ToolStage) (executor : Executor σ) : Stage σ where
  name := s.label
  isTool := true
  check := s.operation.validate
  run := s.run executor
  waitFor o := some o.status

end ToolStage

end ToolPipeline
