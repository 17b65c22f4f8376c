import ToolPipeline.Text.Duration

set_option autoImplicit false

/-!
What a run reports about itself. Every event has a severity, a text and structured fields; the two that
open a unit of work also describe a span.
-/

namespace ToolPipeline

inductive Severity where
  | error
  | warn
  | info
  | debug
  deriving DecidableEq, Repr

def Severity.label : Severity → String
  | .error => "ERROR"
  | .warn => "WARN"
  | .info => "INFO"
  | .debug => "DEBUG"

inductive FieldValue where
  | text (s : String)
  | number (n : Int)
  | flag (b : Bool)
  deriving DecidableEq, Repr

inductive Event where
  | controlLineParsed (line : String) (commands : Nat) (stdin stdout : Option String)
  | controlLineRejected (line error : String)
  | pipelineStarted (stages tools : Nat)
  | pipelineCompleted (stages outputSize : Nat) (duration : Duration)
  | stageStarted (stage : String) (position inputSize : Nat)
  | stageCompleted (stage : String) (position outputSize : Nat) (duration : Duration)
  | stageFailed (stage : String) (position : Nat) (status : Int)
  | toolStageConfigured (tool action executor : String) (inputFiles outputFiles : Nat)
  | commandSubstituted (stage commandLine : String)
  | undeclaredParameter (operation parameter : String)
  | delocalizationSkipped (status : Int) (pending : Nat)
  | entryPointResolved (entryPoint token : String) (arguments : Nat)
  | archiveSkipped (archive error : String)
  | terminationTrapped (entryPoint : String) (status : Int)
  | entryPointFailed (entryPoint error : String)
  | referenceLocalized (reference localPath : String) (copied : Bool)
  | referenceDelocalized (localPath reference : String) (size : Nat)
  deriving DecidableEq, Repr

structure Span where
  name : String
  severity : Severity
  fields : List (String × FieldValue)
  deriving DecidableEq, Repr

namespace Event

def severity : Event → Severity
  | controlLineParsed .. | stageStarted .. | stageCompleted .. | commandSubstituted ..
  | terminationTrapped .. | referenceLocalized .. | referenceDelocalized .. => .debug
  | pipelineStarted .. | pipelineCompleted .. | toolStageConfigured .. | entryPointResolved .. => .info
  | undeclaredParameter .. | delocalizationSkipped .. | archiveSkipped .. => .warn
  | controlLineRejected .. | stageFailed .. | entryPointFailed .. => .error

def summary : Event → String
  | controlLineParsed _ commands stdin stdout =>
    s!"Parsed control line into {commands} command(s): stdin=" ++ stdin.getD "-" ++ ", stdout=" ++ stdout.getD "-"
  | controlLineRejected line error => s!"Rejected control line '{line}': {error}"
  | pipelineStarted stages tools => s!"Starting pipeline: {stages} stages ({tools} tool stages)"
  | pipelineCompleted stages outputSize _ => s!"Pipeline completed: {stages} stages, output={outputSize} bytes"
  | stageStarted stage position inputSize =>
    s!"Stage {position} '{stage}' started: input_size={inputSize} bytes"
  | stageCompleted stage position outputSize _ =>
    s!"Stage {position} '{stage}' completed: output={outputSize} bytes"
  | stageFailed stage position status => s!"Stage {position} '{stage}' failed with status {status}"
  | toolStageConfigured tool action executor inputFiles outputFiles =>
    s!"Configured {executor} stage '{tool}:{action}' with {inputFiles} input file(s) and " ++
      s!"{outputFiles} output file(s)"
  | commandSubstituted stage commandLine => s!"Stage '{stage}' command: {commandLine}"
  | undeclaredParameter operation parameter =>
    s!"Parameter '{parameter}' is not declared by operation '{operation}', passing it through"
  | delocalizationSkipped status pending =>
    s!"Pipeline failed with status {status}: skipping delocalization of {pending} output parameter(s)"
  | entryPointResolved entryPoint token arguments =>
    s!"Resolved entry point '{entryPoint}' from '{token}' with {arguments} argument(s)"
  | archiveSkipped archive error => s!"Skipping archive '{archive}': {error}"
  | terminationTrapped entryPoint status =>
    s!"Entry point '{entryPoint}' tried to exit with status {status}; trapped"
  | entryPointFailed entryPoint error => s!"Entry point '{entryPoint}' failed: {error}"
  | referenceLocalized reference localPath copied =>
    s!"Localized '{reference}' as '{localPath}' (" ++ (if copied then "copied" else "placeholder") ++ ")"
  | referenceDelocalized localPath reference size =>
    s!"Delocalized '{localPath}' to '{reference}' ({size} bytes)"

def duration? : Event → Option Duration
  | pipelineCompleted _ _ d | stageCompleted _ _ _ d => some d
  | _ => none

def message (e : Event) : String :=
  match e.duration? with
  | some d => e.summary ++ ", duration=" ++ d.text
  | none => e.summary

/-- Durations are recorded in whole milliseconds, in 64 bits. -/
def millisecondsField (d : Duration) : String × FieldValue :=
  ("duration_ms", .number (d.milliseconds % Nat.pow 2 64 : Nat))

def optionalField (name : String) : Option String → List (String × FieldValue)
  | some v => [(name, .text v)]
  | none => []

def fields : Event → List (String × FieldValue)
  | controlLineParsed line commands stdin stdout =>
    [("control_line", .text line), ("command_count", .number commands)] ++
      optionalField "stdin_file" stdin ++ optionalField "stdout_file" stdout
  | controlLineRejected line error => [("control_line", .text line), ("error", .text error)]
  | pipelineStarted stages tools => [("stage_count", .number stages), ("tool_count", .number tools)]
  | pipelineCompleted stages outputSize d =>
    [("stage_count", .number stages), ("output_size", .number outputSize), millisecondsField d]
  | stageStarted stage position inputSize =>
    [("stage", .text stage), ("position", .number position), ("input_size", .number inputSize)]
  | stageCompleted stage position outputSize d =>
    [("stage", .text stage), ("position", .number position), ("output_size", .number outputSize),
      millisecondsField d]
  | stageFailed stage position status =>
    [("stage", .text stage), ("position", .number position), ("status", .number status)]
  | toolStageConfigured tool action executor inputFiles outputFiles =>
    [("tool", .text tool), ("action", .text action), ("executor", .text executor),
      ("input_files", .number inputFiles), ("output_files", .number outputFiles)]
  | commandSubstituted stage commandLine => [("stage", .text stage), ("command_line", .text commandLine)]
  | undeclaredParameter operation parameter =>
    [("operation", .text operation), ("parameter", .text parameter)]
  | delocalizationSkipped status pending =>
    [("status", .number status), ("pending_outputs", .number pending)]
  | entryPointResolved entryPoint token arguments =>
    [("entry_point", .text entryPoint), ("token", .text token), ("arg_count", .number arguments)]
  | archiveSkipped archive error => [("archive", .text archive), ("error", .text error)]
  | terminationTrapped entryPoint status => [("entry_point", .text entryPoint), ("status", .number status)]
  | entryPointFailed entryPoint error => [("entry_point", .text entryPoint), ("error", .text error)]
  | referenceLocalized reference localPath copied =>
    [("reference", .text reference), ("local_path", .text localPath), ("copied", .flag copied)]
  | referenceDelocalized localPath reference size =>
    [("local_path", .text localPath), ("reference", .text reference), ("size_bytes", .number size)]

def span? (name : String) : Event → Option Span
  | pipelineStarted stages tools =>
    some ⟨"pipeline", .info,
      [("span_name", .text name), ("stage_count", .number stages), ("tool_count", .number tools)]⟩
  | stageStarted stage position _ =>
    some ⟨"stage", .debug, [("span_name", .text name), ("stage", .text stage), ("position", .number position)]⟩
  | _ => none

end Event

end ToolPipeline
