import ToolPipeline.Operation
import ToolPipeline.Session

set_option autoImplicit false

/-!
Tools, and repositories that know them by name.
-/

namespace ToolPipeline

structure Tool where
  name : String
  runtime : Runtime
  operations : List Operation
  deriving DecidableEq, Repr

/-- The first operation of a name, with the runtime of the tool where it has none of its own. -/
def Tool.operation? (t : Tool) (action : String) : Option Operation :=
  (t.operations.find? fun o => o.name == action).map fun o =>
    { o with runtime := some (o.runtime.getD t.runtime) }

inductive ToolFileProblem where
  | unusable (reason : String)
  | misnamed (declared stored : String)
  deriving DecidableEq, Repr

def ToolFileProblem.message : ToolFileProblem → String
  | unusable reason => reason
  | misnamed declared stored => s!"declares tool '{declared}' but is stored as '{stored}'"

inductive ResolutionError where
  | toolNotFound (tool : String)
  | operationNotFound (tool action : String)
  | invalidTool (path : String) (problem : ToolFileProblem)
  | entryPointNotFound (command : String)
  | archiveUnreadable (archive reason : String)
  deriving DecidableEq, Repr

def ResolutionError.message : ResolutionError → String
  | toolNotFound tool => s!"tool '{tool}' not found in repository"
  | operationNotFound tool action => s!"operation '{action}' not found for tool '{tool}'"
  | invalidTool path problem => s!"invalid tool specification '{path}': " ++ problem.message
  | entryPointNotFound command => s!"no loadable entry point found in command '{command}'"
  | archiveUnreadable archive reason => s!"cannot read archive '{archive}': {reason}"

structure Repository (σ : Type) where
  resolve : (tool action : String) → Action σ ResolutionError Operation

abbrev Catalog := OrderedMap String Tool

namespace Catalog

def add (c : Catalog) (t : Tool) : Catalog := c.insert t.name t

def operationOf (t : Tool) (tool action : String) : Except ResolutionError Operation :=
  match t.operation? action with
  | some o => .ok o
  | none => .error (.operationNotFound tool action)

def resolve (c : Catalog) (tool action : String) : Except ResolutionError Operation :=
  match c.get? tool with
  | some t => operationOf t tool action
  | none => .error (.toolNotFound tool)

def repository {σ : Type} (c : Catalog) : Repository σ where
  resolve tool action := ExceptT.mk (pure (c.resolve tool action))

end Catalog

end ToolPipeline
