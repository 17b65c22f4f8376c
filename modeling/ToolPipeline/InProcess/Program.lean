import ToolPipeline.FileTree.Operations
import ToolPipeline.InProcess.Ambient

set_option autoImplicit false

/-!
Programs that work on the ambient streams, and what running them leaves.
-/

namespace ToolPipeline

/-- A program that computes an `α`, step by step. What it does next may depend on what it read. -/
inductive Program (α : Type) where
  | done (a : α)
  | fail (message : String)
  | exit (status : Int)
  | crash (message : String)
  | write (b : Bytes) (next : Program α)
  | flush (next : Program α)
  | read (limit : Option Nat) (next : Bytes → Program α)
  | resolve (path : String) (next : String → Program α)
  | readFile (path : String) (next : Except FileError Bytes → Program α)

inductive Ending (α : Type) where
  | returned (a : α)
  | failed (message : String)
  /-- Asked the process to end. The trap took the request, or else that was the end of the process. -/
  | exited {trapped : Bool} (status : Int)
  | crashed (message : String)
  deriving DecidableEq, Repr

namespace Ending

variable {α : Type}

@[match_pattern] abbrev requested (status : Int) : Ending α := @exited α true status

@[match_pattern] abbrev ended (status : Int) : Ending α := @exited α false status

end Ending

namespace Program

variable {α β : Type}

def bind : Program α → (α → Program β) → Program β
  | done a, f => f a
  | fail m, _ => fail m
  | exit n, _ => exit n
  | crash m, _ => crash m
  | write b p, f => write b (p.bind f)
  | flush p, f => flush (p.bind f)
  | read n p, f => read n fun b => (p b).bind f
  | resolve path p, f => resolve path fun s => (p s).bind f
  | readFile path p, f => readFile path fun r => (p r).bind f

instance : Monad Program where
  pure := done
  bind := bind

def emit (b : Bytes) : Program Unit := write b (done ())

def flushed : Program Unit := flush (done ())

def readAll : Program Bytes := read none done

def located (path : String) : Program String := resolve path done

def contentOf (path : String) : Program (Except FileError Bytes) := readFile path done

def run (files : FileTree) : Program α → Ambient → Ending α × Ambient
  | done a, s => (.returned a, s)
  | fail m, s => (.failed m, s)
  | exit n, s => (if s.trapped then .requested n else .ended n, s)
  | crash m, s => (.crashed m, s)
  | write b p, s => p.run files (s.write b)
  | flush p, s => p.run files s
  | read n p, s => (p (s.read n).1).run files (s.read n).2
  | resolve path p, s => (p (s.resolve path)).run files s
  | readFile path p, s => (p (files.read path)).run files s

/-- Runs a program behind a redirection, which is gone in the end however the program ends. The answer
holds what the program wrote. -/
def runRedirected (files : FileTree) (stdin : Bytes) (dir : String) (p : Program α) (s : Ambient) :
    (Ending α × Bytes) × Ambient :=
  let (ending, s) := p.run files (s.install stdin dir)
  ((ending, s.captured), s.release)

end Program

/-- What a name stands for: a program that depends on its arguments. -/
abbrev EntryPoint := List String → Program Unit

end ToolPipeline
