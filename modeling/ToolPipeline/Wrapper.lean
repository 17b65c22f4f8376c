import ToolPipeline.Chain
import ToolPipeline.ControlLine.Parser
import ToolPipeline.Stage.Tool

set_option autoImplicit false

/-!
Running control lines. For each command a stage is built and its file parameters are localized; the
stages run between the source and the sink that the line names; output files are published in the end,
and only when every stage succeeded.
-/

namespace ToolPipeline

structure Wrapper (σ : Type) where
  repository : Repository σ
  storage : Storage σ
  processExecutor : Executor σ
  inProcessExecutor : Executor σ
  workingDir : String
  separator : String

/-- The output files of a stage, as they were given and as they are called in the working directory. -/
structure PendingOutputs where
  declared : ParameterMap
  localized : ParameterMap
  deriving DecidableEq, Repr

structure Plan where
  built : List (ToolStage × PendingOutputs)
  source : Option (String × Bytes)
  sink : Option (String × String)
  deriving DecidableEq, Repr

def Plan.outputCount (p : Plan) : Nat := p.built.foldr (fun b n => b.2.declared.size + n) 0

namespace Wrapper

variable {σ : Type}

def executorFor (w : Wrapper σ) : Runtime → Executor σ
  | .process => w.processExecutor
  | .inProcess => w.inProcessExecutor

def resolving {α : Type} (a : Action σ ResolutionError α) : Action σ Abort α :=
  Action.mapError (fun e => .error (.resolution e)) a

def localizing {α : Type} (a : Action σ StorageError α) : Action σ Abort α :=
  Action.mapError (fun e => .error (.localization e)) a

def configuring {α : Type} (a : Action σ OperationError α) : Action σ Abort α :=
  Action.mapError (fun e => .error (.configuration e)) a

def localizeMap (w : Wrapper σ) (copy : Bool) (m : ParameterMap) : Action σ StorageError ParameterMap := do
  pure ⟨← m.toList.mapM fun e => do
    pure (e.1, ← w.storage.localizeAll w.separator w.workingDir copy e.2)⟩

def buildStage (w : Wrapper σ) (c : ControlLine.Command) : Action σ Abort (ToolStage × PendingOutputs) := do
  let operation ← resolving (w.repository.resolve c.tool c.action)
  let executor := w.executorFor operation.effectiveRuntime
  let stage := { ToolStage.ofOperation c.tool c.action operation with workingDir := w.workingDir }
  configuring (ExceptT.mk (pure operation.validate))
  let (assigning, stage) := stage.assignReporting c.pairs
  configuring assigning
  let p := stage.parameters
  let inputs ← localizing (w.localizeMap true p.inputs)
  let outputs ← localizing (w.localizeMap false p.outputs)
  Action.report (.toolStageConfigured c.tool c.action executor.kind inputs.size p.outputs.size)
  pure ({ stage with parameters := { p with inputs, outputs } }, ⟨p.outputs, outputs⟩)

/-- The reference of a redirection. A file of this machine is looked up in the working directory. -/
def redirection (w : Wrapper σ) (reference : String) : Action σ StorageError String :=
  ExceptT.mk (pure (Reference.anchor w.workingDir reference))

def readSource (w : Wrapper σ) : Option String → Action σ StorageError (Option (String × Bytes))
  | none => pure none
  | some file => do
    let reference ← w.redirection file
    pure (some (reference, ← w.storage.read reference))

def findSink (w : Wrapper σ) : Option String → Action σ StorageError (Option (String × String))
  | none => pure none
  | some file => do
    pure (some (file, ← w.redirection file))

def readLine (line : String) : Action σ Abort ControlLine.Pipeline := do
  match ControlLine.parse line with
  | .error e => do
    Action.report (.controlLineRejected line e.message)
    throw (.error (.malformedLine e))
  | .ok p => do
    Action.report (.controlLineParsed line p.commands.length p.stdin p.stdout)
    pure p

def prepare (w : Wrapper σ) (line : String) : Action σ Abort Plan := do
  let p ← readLine line
  let built ← p.commands.mapM w.buildStage
  let source ← localizing (w.readSource p.stdin)
  let sink ← localizing (w.findSink p.stdout)
  pure ⟨built, source, sink⟩

def toolStage (w : Wrapper σ) (t : ToolStage) : Stage σ := t.stage (w.executorFor t.operation.effectiveRuntime)

def sourceStages (source : Option (String × Bytes)) : List (Stage σ) :=
  (source.map fun s => .sourceOf s.1 s.2).toList

def sinkStage (w : Wrapper σ) : Option (String × String) → Stage σ
  | none => .sink
  | some (_, reference) => .sinkTo w.storage reference

def chain (w : Wrapper σ) (p : Plan) : List (Stage σ) :=
  sourceStages p.source ++ p.built.map (fun b => w.toolStage b.1) ++ [w.sinkStage p.sink]

def publish (w : Wrapper σ) (p : PendingOutputs) : Action σ StorageError Unit :=
  p.localized.toList.forM fun e =>
    match p.declared.get? e.1 with
    | some declared => w.storage.delocalizeAll w.separator w.workingDir e.2 declared
    | none => pure ()

def carryOut (w : Wrapper σ) (p : Plan) : Action σ Abort String := do
  let outcome ← Chain.run (w.chain p)
  if !outcome.succeeded then
    Action.report (.delocalizationSkipped outcome.status p.outputCount)
    throw (.error (.execution outcome.status outcome.text))
  else
    p.built.forM fun b => localizing (w.publish b.2)
    pure ((p.sink.map (·.1)).getD (Text.decodeLossy outcome.stdout))

/-- Runs a control line. The answer is the name of its output file, or what the last stage wrote. -/
def wrap (w : Wrapper σ) (line : String) : Action σ Abort String := do
  w.carryOut (← w.prepare line)

/-- Runs lines one after another and collects how each of them ended. A line that breaks down ends the run. -/
def wrapAll (w : Wrapper σ) : List String → Action σ Abort (List (Except RunError String))
  | [] => pure []
  | line :: rest => do
    let r ← tryCatch (Except.ok <$> w.wrap line) fun
      | .error e => pure (.error e)
      | .crash message => throw (.crash message)
    pure (r :: (← w.wrapAll rest))

end Wrapper

end ToolPipeline
