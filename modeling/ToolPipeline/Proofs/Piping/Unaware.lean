import ToolPipeline.Proofs.InProcess.LastToken
import ToolPipeline.Proofs.Piping.Building
import ToolPipeline.Setup

set_option autoImplicit false

/-!
Actions that do not look at what was reported. What they answer, and what they leave of the files and of the
state, is the same in sessions that differ in their events. The stages that lines are made of are of this kind.
-/

namespace ToolPipeline

variable {σ ε δ α β : Type}

namespace Session.Alike

variable {s t u : Session σ}

theorem refl (s : Session σ) : s.Alike s := ⟨rfl, rfl⟩

theorem symm (h : s.Alike t) : t.Alike s := ⟨h.files_eq.symm, h.state_eq.symm⟩

theorem trans (h : s.Alike t) (h' : t.Alike u) : s.Alike u :=
  ⟨h.files_eq.trans h'.files_eq, h.state_eq.trans h'.state_eq⟩

end Session.Alike

structure SameEnd (p q : Except ε α × Session σ) : Prop where
  answer_eq : p.1 = q.1
  session_alike : p.2.Alike q.2

namespace Action

/-- The action does not see what was reported before. -/
def Unaware (a : Action σ ε α) : Prop := ∀ s t, s.Alike t → SameEnd (a s) (a t)

namespace Unaware

theorem of_except (r : Except ε α) : Unaware (ExceptT.mk (pure r) : Action σ ε α) :=
  fun _ _ h => ⟨rfl, h⟩

theorem of_pure (x : α) : Unaware (pure x : Action σ ε α) := of_except (.ok x)

theorem of_throw (e : ε) : Unaware (throw e : Action σ ε α) := of_except (.error e)

theorem of_report (e : Event) : Unaware (report e : Action σ ε Unit) :=
  fun _ _ h => ⟨rfl, h.files_eq, h.state_eq⟩

theorem bind {a : Action σ ε α} {f : α → Action σ ε β} (ha : a.Unaware) (hf : ∀ x, (f x).Unaware) :
    (a >>= f).Unaware := by
  intro s t h
  have hend := ha s t h
  rw [bind_apply, bind_apply]
  generalize a s = p at hend ⊢
  generalize a t = q at hend ⊢
  obtain ⟨r, s'⟩ := p
  obtain ⟨r', t'⟩ := q
  obtain ⟨rfl : r = r', hsession⟩ := hend
  cases r with
  | error e => exact ⟨rfl, hsession⟩
  | ok x => exact hf x s' t' hsession

theorem mapError {a : Action σ δ α} (rename : δ → ε) (ha : a.Unaware) :
    Unaware (Action.mapError rename a : Action σ ε α) := by
  intro s t h
  obtain ⟨hanswer, hsession⟩ := ha s t h
  rw [mapError_apply, mapError_apply, hanswer]
  exact ⟨rfl, hsession⟩

theorem onFiles (rename : FileError → ε) (a : FileAction α) : Unaware (Action.onFiles rename a : Action σ ε α) := by
  intro s t h
  unfold Action.onFiles
  rw [h.files_eq]
  rcases a t.files with ⟨_ | _, _⟩ <;> exact ⟨rfl, rfl, h.state_eq⟩

theorem of_reports (l : List Event) : Unaware (l.forM report : Action σ ε Unit) := by
  induction l with
  | nil => exact of_pure ()
  | cons e l ih => exact (of_report e).bind fun _ => ih

end Unaware

end Action

def Executor.Unaware (x : Executor σ) : Prop :=
  ∀ commandLine workingDir stdin, (x.run commandLine workingDir stdin).Unaware

def Stage.Unaware (x : Stage σ) : Prop := ∀ stdin, (x.run stdin).Unaware

namespace Stage

end Stage

end ToolPipeline
