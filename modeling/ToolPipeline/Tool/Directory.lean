import ToolPipeline.FileTree.Operations
import ToolPipeline.Tool.Basic

set_option autoImplicit false

/-!
Tools kept in a directory, one file for each. A tool is read when it is first asked for and remembered
from then on; a failed attempt is not.
-/

namespace ToolPipeline

structure ToolDirectory where
  root : String
  parse : String → Except String Tool

namespace ToolDirectory

def isPlainName (tool : String) : Bool :=
  !tool.isEmpty && !tool.toList.contains '/' && !tool.toList.contains '\\' && tool != "." && tool != ".."

def path (d : ToolDirectory) (tool : String) : String := Path.join d.root (tool ++ ".yaml")

def readTool (d : ToolDirectory) (files : FileTree) (tool : String) : Except ResolutionError Tool :=
  if !isPlainName tool || !files.holdsFile (d.path tool) then .error (.toolNotFound tool)
  else
    match (files.readText (d.path tool)).bind d.parse with
    | .error reason => .error (.invalidTool (d.path tool) (.unusable reason))
    | .ok t =>
      if t.name = tool then .ok t else .error (.invalidTool (d.path tool) (.misnamed t.name tool))

/-- The tool of a name, from the tools read before or from its file, and the tools read by then. -/
def load (d : ToolDirectory) (files : FileTree) (known : Catalog) (tool : String) :
    Except ResolutionError Tool × Catalog :=
  match known.get? tool with
  | some t => (.ok t, known)
  | none =>
    match d.readTool files tool with
    | .ok t => (.ok t, known.insert tool t)
    | .error e => (.error e, known)

/-- The repository on a directory; its state are the tools read so far. -/
def repository (d : ToolDirectory) : Repository Catalog where
  resolve tool action := do
    let s ← get
    let (r, known) := d.load s.files s.state tool
    set { s with state := known }
    ExceptT.mk (pure (r.bind fun t => Catalog.operationOf t tool action))

end ToolDirectory

end ToolPipeline
