import ToolPipeline.Config
import ToolPipeline.InProcess.Builtins
import ToolPipeline.InProcess.Executor
import ToolPipeline.Shell.Process
import ToolPipeline.Tool.Directory
import ToolPipeline.Tool.File
import ToolPipeline.Wrapper

set_option autoImplicit false

/-!
The wrapper of a configuration.
-/

namespace ToolPipeline.Config

def shell : String := "sh"

/-- A wrapper with the tools in the repository directory of a configuration and the entry points that come
with the library. -/
def wrapper (c : Config) : Wrapper Catalog where
  repository := (ToolDirectory.mk c.repository ToolFile.parse).repository
  storage := c.roots.storage
  processExecutor := ToolPipeline.processExecutor shell
  inProcessExecutor := ToolPipeline.inProcessExecutor Registry.builtins.get?
  workingDir := c.effectiveWorkingDir
  separator := c.effectiveSeparator

end ToolPipeline.Config
