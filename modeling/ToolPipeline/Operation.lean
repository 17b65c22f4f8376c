import ToolPipeline.Template
import ToolPipeline.Text.Blank

set_option autoImplicit false

/-!
Operations: what a tool can be asked to do, as a command template with declared parameters.
-/

namespace ToolPipeline

inductive Runtime where
  | process
  | inProcess
  deriving DecidableEq, Repr

structure ParameterSpec where
  name : String
  required : Bool
  default : Option String
  deriving DecidableEq, Repr

/-- What a parameter is used for. Input files are fetched before a run and output files are published
after it. -/
inductive ParameterRole where
  | inputFile
  | outputFile
  | other
  deriving DecidableEq, Repr

structure Operation where
  name : String
  command : String
  /-- When missing, the runtime of the tool counts. -/
  runtime : Option Runtime
  inputs : List ParameterSpec
  outputs : List ParameterSpec
  parameters : List ParameterSpec
  deriving DecidableEq, Repr

inductive OperationError where
  | emptyCommand (operation : String)
  | duplicateParameter (operation parameter : String)
  | undeclaredPlaceholder (operation placeholder : String)
  | missingParameter (operation parameter : String)
  deriving DecidableEq, Repr

def OperationError.message : OperationError → String
  | emptyCommand operation => s!"operation '{operation}' has an empty command template"
  | duplicateParameter operation parameter =>
    s!"operation '{operation}' declares parameter '{parameter}' more than once"
  | undeclaredPlaceholder operation placeholder =>
    s!"operation '{operation}' uses undeclared placeholder '{placeholder}'"
  | missingParameter operation parameter => s!"operation '{operation}' requires parameter '{parameter}'"

namespace Operation

def template (o : Operation) : Template := .ofText o.command

def effectiveRuntime (o : Operation) : Runtime := o.runtime.getD .process

/-- All declared parameters: inputs, then outputs, then others. -/
def declared (o : Operation) : List (ParameterSpec × ParameterRole) :=
  o.inputs.map (·, .inputFile) ++ o.outputs.map (·, .outputFile) ++ o.parameters.map (·, .other)

def declaredNames (o : Operation) : List String := o.declared.map fun d => d.1.name

def roleOf? (o : Operation) (name : String) : Option ParameterRole :=
  (o.declared.find? fun d => d.1.name == name).map (·.2)

/-- The first element that occurred before; `seen` are the elements further left. -/
def firstRepeated? (seen : List String) : List String → Option String
  | [] => none
  | x :: l => if seen.contains x then some x else firstRepeated? (x :: seen) l

/-- Checks an operation on its own: it has a command, declares no name twice, and uses declared names
only. -/
def validate (o : Operation) : Except OperationError Unit :=
  if (Text.trim o.command).isEmpty then .error (.emptyCommand o.name)
  else
    match firstRepeated? [] o.declaredNames with
    | some p => .error (.duplicateParameter o.name p)
    | none =>
      match o.template.placeholders.find? fun p => !o.declaredNames.contains p with
      | some p => .error (.undeclaredPlaceholder o.name p)
      | none => .ok ()

end Operation

end ToolPipeline
