import ToolPipeline.Stage.Basic

set_option autoImplicit false

/-!
Running stages one after another. What a stage writes is the input of the next one, and the first status
other than zero ends the chain.
-/

namespace ToolPipeline

structure ChainOutcome where
  status : Int
  stdout : Bytes
  stderr : Bytes
  failedStage : Option String
  deriving DecidableEq, Repr

namespace ChainOutcome

def succeeded (o : ChainOutcome) : Bool := o.status == 0

def text (o : ChainOutcome) : String := Text.decodeLossy o.stdout ++ Text.decodeLossy o.stderr

end ChainOutcome

namespace Chain

variable {σ : Type}

/-- Runs the remaining stages of a chain of `total` ones. The next stage stands at `position` and is given
`data`; `stderr` was written so far. -/
def runFrom (total position : Nat) (stderr data : Bytes) : List (Stage σ) → Action σ Abort ChainOutcome
  | [] => do
    Action.report (.pipelineCompleted total data.length .zero)
    pure ⟨0, data, stderr, none⟩
  | s :: rest => do
    Action.report (.stageStarted s.name position data.length)
    let o ← s.run data
    let stderr := stderr ++ o.stderr
    if s.status o ≠ 0 then
      Action.report (.stageFailed s.name position (s.status o))
      pure ⟨s.status o, o.stdout, stderr, some s.name⟩
    else
      Action.report (.stageCompleted s.name position o.stdout.length .zero)
      runFrom total (position + 1) stderr o.stdout rest

def run (stages : List (Stage σ)) : Action σ Abort ChainOutcome := do
  Action.report (.pipelineStarted stages.length (stages.filter fun s => s.isTool).length)
  runFrom stages.length 1 [] [] stages

end Chain

end ToolPipeline
