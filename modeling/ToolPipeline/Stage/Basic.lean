import ToolPipeline.Executor
import ToolPipeline.Storage.Basic

set_option autoImplicit false

/-!
Stages of a chain.
-/

namespace ToolPipeline

structure Stage (σ : Type) where
  name : String
  isTool : Bool
  check : Except OperationError Unit
  run : (stdin : Bytes) → Action σ Abort StageOutput
  /-- The status that the stage tells when it is asked after a run with this output. Without one the
  status of the output counts. -/
  waitFor : StageOutput → Option Int

namespace Stage

variable {σ : Type}

def status (s : Stage σ) (o : StageOutput) : Int := (s.waitFor o).getD o.status

def source (name : String) (b : Bytes) : Stage σ where
  name
  isTool := false
  check := .ok ()
  run _ := pure (.success b)
  waitFor o := some o.status

def sourceOf (reference : String) (b : Bytes) : Stage σ := source ("stdin:" ++ reference) b

def sourceFrom (storage : Storage σ) (reference : String) : Action σ StorageError (Stage σ) := do
  pure (sourceOf reference (← storage.read reference))

def sink : Stage σ where
  name := "stdout"
  isTool := false
  check := .ok ()
  run b := pure (.success b)
  waitFor o := some o.status

def sinkTo (storage : Storage σ) (reference : String) : Stage σ where
  name := "stdout:" ++ reference
  isTool := false
  check := .ok ()
  run b := do
    Action.mapError (fun e => .error (.localization e)) (storage.write reference b)
    pure (.success b)
  waitFor o := some o.status

end Stage

end ToolPipeline
