import ToolPipeline.Executor
import ToolPipeline.InProcess.Resolution

set_option autoImplicit false

/-!
Running entry points as stages.
-/

namespace ToolPipeline

inductive Outcome where
  | returned
  | terminated (status : Int)
  | failed (message : String)
  deriving DecidableEq, Repr

def Outcome.status : Outcome → Int
  | returned => 0
  | terminated n => n
  | failed _ => 1

structure Invocation where
  outcome : Outcome
  stdout : Bytes
  deriving DecidableEq, Repr

/-- The outcome of an ending, and the event that it is reported with. A program that broke down has none, nor
has one that took the process with it. -/
def Outcome.ofEnding? (name : String) : Ending Unit → Except String (Outcome × List Event)
  | .returned () => .ok (.returned, [])
  | .failed m => .ok (.failed m, [.entryPointFailed name m])
  | .requested n => .ok (.terminated n, [.terminationTrapped name n])
  | .ended n => .error s!"process ended with status {n}"
  | .crashed m => .error m

def invoke {σ : Type} (name : String) (entryPoint : EntryPoint) (arguments : List String) (stdin : Bytes)
    (workingDir : String) : Action σ Abort Invocation := do
  let files := (← get).files
  let ((ending, stdout), _) :=
    (entryPoint arguments).runRedirected files stdin workingDir (.ofHost [])
  match Outcome.ofEnding? name ending with
  | .error m => throw (.crash m)
  | .ok (outcome, events) => do
    events.forM Action.report
    pure ⟨outcome, stdout⟩

def inProcessExecutor {σ : Type} (lookup : String → Option EntryPoint) : Executor σ where
  kind := "in_process"
  run commandLine workingDir stdin := do
    let r ← Action.mapError (.map .resolution) (resolveEntryPoint lookup workingDir commandLine)
    let i ← invoke r.name r.entryPoint r.arguments stdin workingDir
    let stderr := match i.outcome with
      | .failed m => Text.encode (r.name ++ ": " ++ m ++ "\n")
      | _ => []
    pure ⟨i.outcome.status, i.stdout, stderr⟩

end ToolPipeline
