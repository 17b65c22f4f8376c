import ToolPipeline.Event
import ToolPipeline.FileTree.Operations

set_option autoImplicit false

/-!
What a run works on: the files, the events reported so far, and a state of the services it uses.
-/

namespace ToolPipeline

structure Session (σ : Type) where
  files : FileTree
  events : List Event
  state : σ

/-- A step of a run. What it did before failing stays done. -/
abbrev Action (σ ε : Type) := ExceptT ε (StateM (Session σ))

namespace Action

variable {σ ε δ α : Type}

def report (e : Event) : Action σ ε Unit := modify fun s => { s with events := s.events ++ [e] }

def onFiles (rename : FileError → ε) (a : FileAction α) : Action σ ε α := fun s =>
  match a s.files with
  | (.ok x, t) => (.ok x, { s with files := t })
  | (.error e, t) => (.error (rename e), { s with files := t })

def lookAtFiles (rename : FileError → ε) (f : FileTree → Except FileError α) : Action σ ε α := fun s =>
  match f s.files with
  | .ok x => (.ok x, s)
  | .error e => (.error (rename e), s)

def mapError (rename : δ → ε) (a : Action σ δ α) : Action σ ε α := fun s =>
  match a s with
  | (.ok x, s) => (.ok x, s)
  | (.error e, s) => (.error (rename e), s)

end Action

end ToolPipeline
