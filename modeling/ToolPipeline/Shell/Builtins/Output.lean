import ToolPipeline.Shell.Builtins.Basic
import ToolPipeline.Shell.Format

set_option autoImplicit false

/-!
The commands of the shell that print their arguments.
-/

namespace ToolPipeline.Shell.Builtin

/-- The arguments with blanks between them up to one that ends the output, and whether one did. -/
def echoText : List Chars → Chars × Bool
  | [] => ([], false)
  | a :: rest =>
    let (s, stops) := Format.unescape [] (a.length + 1) a
    if stops then (s, true)
    else if rest.isEmpty then (s, false)
    else
      let r := echoText rest
      (s ++ ' ' :: r.1, r.2)

def echo : Builtin := fun arguments => do
  let isOpen := arguments.head? == some ['-', 'n']
  let (s, stops) := echoText (if isOpen then arguments.tail else arguments)
  Running.say (if isOpen || stops then s else s ++ ['\n'])
  pure 0

def printf : Builtin := fun arguments => do
  let (_, operands) ← parse "" arguments
  match operands with
  | [] => Running.failText "usage: printf format [arg ...]"
  | format :: rest =>
    let p := Format.run format rest
    for m in p.problems do Running.warn m
    Running.say p.text
    if p.abandoned then Running.giveUp
    pure (if p.failed then 1 else 0)

end ToolPipeline.Shell.Builtin
