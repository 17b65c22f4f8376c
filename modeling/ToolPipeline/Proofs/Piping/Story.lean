import Mathlib.Data.List.Chain
import ToolPipeline.Proofs.InProcess.CleanScope
import ToolPipeline.Proofs.Piping.Adding
import ToolPipeline.Proofs.Piping.Composition

set_option autoImplicit false

/-!
What a run of a chain reports. `story` puts the events of the chain and the runs of its stages into their order,
and a run does nothing else. Read without the runs, the story is what the chain itself has in the log;
where stages only add to the log, all of the log follows from it.
-/

namespace ToolPipeline

variable {σ : Type}

namespace Execution

def opening (x : Execution σ) (position : Nat) : Event :=
  .stageStarted x.stage.name position x.stdin.length

/-- The run of a stage was followed by that of another one, which was given what the first one wrote. -/
def Feeds (x y : Execution σ) : Prop := ∃ o, x.answer = .ok o ∧ x.stage.status o = 0 ∧ y.stdin = o.stdout

end Execution

namespace Chain

open ChainOutcome (behind)

inductive Step (σ : Type) where
  | report (e : Event)
  | execute (x : Execution σ)

namespace Step

def event? : Step σ → Option Event
  | report e => some e
  | execute _ => none

end Step

inductive Leads : Session σ → List (Step σ) → Session σ → Prop
  | nil {s : Session σ} : Leads s [] s
  | report {e : Event} {s t : Session σ} {steps : List (Step σ)} :
      Leads (s.reporting [e]) steps t → Leads s (.report e :: steps) t
  | execute {x : Execution σ} {s u t : Session σ} {steps : List (Step σ)} :
      x.stage.run x.stdin s = (x.answer, u) → Leads u steps t → Leads s (.execute x :: steps) t

def reports (steps : List (Step σ)) : List Event := steps.filterMap Step.event?

/-- What the steps add to the log, with what stages report themselves. -/
def log : Session σ → List (Step σ) → List Event
  | _, [] => []
  | s, .report e :: steps => e :: log (s.reporting [e]) steps
  | s, .execute x :: steps =>
    let t := (x.stage.run x.stdin s).2
    t.events.drop s.events.length ++ log t steps

variable {stages rest : List (Stage σ)} {x : Stage σ} {data stderr : Bytes} {s t u v : Session σ}
  {l : List (Execution σ)} {r : Except Abort ChainOutcome} {total position : Nat} {steps : List (Step σ)}

theorem Leads.events_eq (h : Leads s steps t) (ha : ∀ x, .execute x ∈ steps → x.stage.Adds) :
    t.events = s.events ++ log s steps := by
  induction h with
  | nil => rw [log, List.append_nil]
  | report _ ih =>
    rw [ih fun x hx => ha x (List.mem_cons_of_mem _ hx), log, Session.reporting, List.append_assoc]
    rfl
  | @execute x s u t steps hx _ ih =>
    -- What the stage reported itself is what it left behind the events that were there.
    have hadds := ha x List.mem_cons_self x.stdin s
    rw [ih fun y hy => ha y (List.mem_cons_of_mem _ hy), log]
    simp only [hx] at hadds ⊢
    obtain ⟨own, hown⟩ := hadds
    rw [← hown, List.drop_left, List.append_assoc]

theorem Executes.fed (h : Executes stages data s l r t) :
    (∀ x ∈ l.head?, x.stdin = data) ∧ l.IsChain Execution.Feeds := by
  have hhead {x : Execution σ} (l : List (Execution σ)) : ∀ y ∈ (x :: l).head?, y.stdin = x.stdin := by
    intro y hy
    cases Option.some.inj hy
    rfl
  induction h with
  | nil =>
    refine ⟨fun y hy => ?_, .nil⟩
    cases hy
  | aborted => exact ⟨hhead [], .singleton _⟩
  | failed => exact ⟨hhead [], .singleton _⟩
  | passed _ _ hz _ ih =>
    refine ⟨hhead _, List.isChain_cons.2 ⟨fun y hy => ?_, ih.2⟩⟩
    exact ⟨_, rfl, hz, ih.1 y hy⟩

theorem Accounts.stopped {outputs : List StageOutput} (h : Accounts stages data l r outputs) :
    (l.map (·.stage) = stages ∧ ∀ x ∈ l, x.Passed) ∨
      ∃ front x, l = front ++ [x] ∧ (∀ y ∈ front, y.Passed) ∧ ¬ x.Passed := by
  rcases hr : r with e | o
  · obtain ⟨front, x, stdin, rfl, hfront, -⟩ := h.aborted e hr
    exact .inr ⟨front, _, rfl, hfront, fun ⟨_, ha, _⟩ => nomatch ha⟩
  · by_cases hz : o.status = 0
    · exact .inl (h.succeeded_iff.1 ⟨o, hr, hz⟩)
    · obtain ⟨front, x, stdin, a, rfl, hfront, hstatus, -⟩ := h.failed o hr hz
      refine .inr ⟨front, _, rfl, hfront, ?_⟩
      rintro ⟨_, ⟨⟩, ha⟩
      exact hz (hstatus.trans ha)

end Chain

end ToolPipeline
