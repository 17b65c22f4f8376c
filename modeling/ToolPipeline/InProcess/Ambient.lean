import ToolPipeline.Path
import ToolPipeline.Text.Utf8

set_option autoImplicit false

/-!
The streams, the working directory and the way out as entry points see them.

Normally they are those of the host process. While a redirection is installed the streams are private
buffers, paths start from a directory of its own, and asking to exit is trapped.
-/

namespace ToolPipeline

structure Ambient where
  hostInput : Bytes
  hostOutput : Bytes
  output : Option Bytes
  input : Option Bytes
  workingDir : Option String
  trapped : Bool
  deriving DecidableEq, Repr

namespace Ambient

def ofHost (input : Bytes) : Ambient := ⟨input, [], none, none, none, false⟩

def install (stdin : Bytes) (dir : String) (a : Ambient) : Ambient :=
  { a with output := some [], input := some stdin, workingDir := some dir, trapped := true }

def release (a : Ambient) : Ambient :=
  { a with output := none, input := none, workingDir := none, trapped := false }

def captured (a : Ambient) : Bytes := a.output.getD []

def write (b : Bytes) (a : Ambient) : Ambient :=
  match a.output with
  | some o => { a with output := some (o ++ b) }
  | none => { a with hostOutput := a.hostOutput ++ b }

def read (limit : Option Nat) (a : Ambient) : Bytes × Ambient :=
  let take (s : Bytes) := s.take (limit.getD s.length)
  let drop (s : Bytes) := s.drop (limit.getD s.length)
  match a.input with
  | some s => (take s, { a with input := some (drop s) })
  | none => (take a.hostInput, { a with hostInput := drop a.hostInput })

def resolve (path : String) (a : Ambient) : String :=
  match a.workingDir with
  | some dir => Path.join dir path
  | none => path

end Ambient

end ToolPipeline
