import ToolPipeline.Proofs.DataFlow
import ToolPipeline.Proofs.Piping.Building

set_option autoImplicit false

/-!
Chains of stages whose commands answer alike in every session. What comes of them is computed from the
answers, stage by stage.
-/

namespace ToolPipeline

variable {σ : Type}

abbrev Answering := Runtime → (commandLine workingDir : String) → (stdin : Bytes) → Except Abort StageOutput

/-- The executors answer like this. What else they do is left open. -/
def Wrapper.Determined (w : Wrapper σ) (answer : Answering) : Prop :=
  ∀ runtime line dir stdin s, ((w.executorFor runtime).run line dir stdin s).1 = answer runtime line dir stdin

namespace Answering

variable {answer : Answering} {ts us : List ToolStage} {stderr before data : Bytes}

def ofStage (answer : Answering) (t : ToolStage) (stdin : Bytes) : Except Abort StageOutput :=
  answer t.operation.effectiveRuntime t.commandLine t.workingDir stdin

/-- What stages come to that are given `data`, when `stderr` was written before them. -/
def outcome (answer : Answering) (stderr data : Bytes) : List ToolStage → Except Abort ChainOutcome
  | [] => .ok ⟨0, data, stderr, none⟩
  | t :: ts =>
    match answer.ofStage t data with
    | .error e => .error e
    | .ok o =>
      if o.status ≠ 0 then .ok ⟨o.status, o.stdout, stderr ++ o.stderr, some t.label⟩
      else answer.outcome (stderr ++ o.stderr) o.stdout ts

theorem outcome_append : answer.outcome stderr data (ts ++ us) =
    match answer.outcome stderr data ts with
    | .error e => .error e
    | .ok o => if o.status ≠ 0 then .ok o else answer.outcome o.stderr o.stdout us := by
  induction ts generalizing stderr data with
  | nil => rfl
  | cons t ts ih =>
    simp only [List.cons_append, outcome]
    cases answer.ofStage t data with
    | error e => rfl
    | ok o =>
      by_cases ho : o.status = 0
      · simp only [ho, ne_eq, not_true_eq_false, if_false]
        exact ih
      · simp [ho]

/-- What was written to the error output before has no influence, but is kept in front. -/
theorem outcome_eq_map : answer.outcome (before ++ stderr) data ts =
    (answer.outcome stderr data ts).map fun o => { o with stderr := before ++ o.stderr } := by
  induction ts generalizing stderr data with
  | nil => rfl
  | cons t ts ih =>
    simp only [outcome]
    cases answer.ofStage t data with
    | error e => rfl
    | ok o =>
      by_cases ho : o.status = 0
      · simp only [ho, ne_eq, not_true_eq_false, if_false, List.append_assoc]
        exact ih
      · simp [ho, Except.map]

end Answering

namespace Wrapper

variable {w : Wrapper σ} {answer : Answering}

theorem toolStage_run (hw : w.Determined answer) (t : ToolStage) (data : Bytes) (s : Session σ) :
    ∃ u, (w.toolStage t).run data s = (answer.ofStage t data, u) :=
  ⟨_, Prod.ext (hw _ _ _ _ _) rfl⟩

theorem runFrom_tools (hw : w.Determined answer) (ts : List ToolStage) (rest : List (Stage σ))
    (total position : Nat) (stderr data : Bytes) (s : Session σ) : ∃ k t,
    Chain.runFrom total position stderr data (ts.map w.toolStage ++ rest) s =
      match answer.outcome stderr data ts with
      | .error e => (.error e, t)
      | .ok o => if o.status ≠ 0 then (.ok o, t) else Chain.runFrom total k o.stderr o.stdout rest t := by
  -- Over the stages: each leaves another session and position behind, but the next answer depends on neither.
  induction ts generalizing position stderr data s with
  | nil => exact ⟨position, s, rfl⟩
  | cons t ts ih =>
    rw [List.map_cons, List.cons_append, Chain.runFrom, Answering.outcome]
    have hreport : Action.report (.stageStarted (w.toolStage t).name position data.length) s =
      ((.ok () : Except Abort Unit), ⟨s.files, s.events ++ [_], s.state⟩) := rfl
    obtain ⟨u, hrun⟩ := toolStage_run hw t data ⟨s.files, s.events ++ [_], s.state⟩
    rw [Action.bind_of_eq_ok hreport, Action.bind_apply, hrun]
    cases answer.ofStage t data with
    | error e => exact ⟨position, u, rfl⟩
    | ok o =>
      have hstatus : (w.toolStage t).status o = o.status := rfl
      dsimp only
      rw [hstatus]
      by_cases ho : o.status = 0
      · obtain ⟨k, v, hv⟩ := ih (position + 1) (stderr ++ o.stderr) o.stdout _
        refine ⟨k, v, ?_⟩
        simp only [ho, ne_eq, not_true_eq_false, if_false]
        exact hv
      · simp only [ho, ne_eq, not_false_eq_true, if_true]
        exact ⟨position, _, rfl⟩

theorem runFrom_source (source : Option (String × Bytes)) (rest : List (Stage σ)) (total : Nat)
    (s : Session σ) : ∃ k t, Chain.runFrom total 1 [] [] (sourceStages source ++ rest) s =
      Chain.runFrom total k [] ((source.map (·.2)).getD []) rest t := by
  cases source with
  | none => exact ⟨1, s, rfl⟩
  | some f => exact ⟨2, _, rfl⟩

theorem publish_noOutputs (w : Wrapper σ) {built : List (ToolStage × PendingOutputs)}
    (hn : ∀ b ∈ built, b.2 = noOutputs) (s : Session σ) :
    (built.forM fun b => localizing (w.publish b.2)) s = (.ok (), s) := by
  induction built with
  | nil => rfl
  | cons b built ih =>
    obtain ⟨hb, hbuilt⟩ := List.forall_mem_cons.1 hn
    have hp : localizing (w.publish b.2) s = (.ok (), s) := by rw [hb]; rfl
    change (localizing (w.publish b.2) >>= fun _ => built.forM fun b => localizing (w.publish b.2)) s = _
    rw [Action.bind_of_eq_ok hp, ih hbuilt]

inductive CarriedOut (w : Wrapper σ) (answer : Answering) (p : Plan) : Except Abort String × Session σ → Prop
  | aborted {e : Abort} {t : Session σ} :
      answer.outcome [] p.input (p.built.map (·.1)) = .error e → CarriedOut w answer p (.error e, t)
  | failed {o : ChainOutcome} {t : Session σ} :
      answer.outcome [] p.input (p.built.map (·.1)) = .ok o → o.status ≠ 0 →
        CarriedOut w answer p (.error (.error (.execution o.status o.text)), t)
  | unwritten {o : ChainOutcome} {e : Abort} {t u : Session σ} :
      answer.outcome [] p.input (p.built.map (·.1)) = .ok o → o.status = 0 →
        (w.sinkStage p.sink).run o.stdout t = (.error e, u) → CarriedOut w answer p (.error e, u)
  | written {o : ChainOutcome} {t u v : Session σ} :
      answer.outcome [] p.input (p.built.map (·.1)) = .ok o → o.status = 0 →
        (w.sinkStage p.sink).run o.stdout t = (.ok (.success o.stdout), u) → v.Alike u →
        CarriedOut w answer p (.ok ((p.sink.map (·.1)).getD (Text.decodeLossy o.stdout)), v)

theorem output_of_sinkStage {sink : Option (String × String)} {data : Bytes} {o : StageOutput} {t u : Session σ}
    (h : (w.sinkStage sink).run data t = (.ok o, u)) : o = .success data := by
  cases sink with
  | none =>
    cases h
    rfl
  | some f =>
    obtain ⟨_, _, -, h⟩ := Action.bind_eq_ok h
    cases h
    rfl

theorem run_chain (hw : w.Determined answer) (p : Plan) (s : Session σ) : ∃ total k t,
    Chain.run (w.chain p) s =
      match answer.outcome [] p.input (p.built.map (·.1)) with
      | .error e => (.error e, t)
      | .ok o =>
        if o.status ≠ 0 then (.ok o, t) else Chain.runFrom total k o.stderr o.stdout [w.sinkStage p.sink] t := by
  have htools : p.built.map (fun b => w.toolStage b.1) = (p.built.map (·.1)).map w.toolStage := by simp
  obtain ⟨k, t, ht⟩ := runFrom_source p.source (p.built.map (fun b => w.toolStage b.1) ++ [w.sinkStage p.sink])
    (w.chain p).length _
  obtain ⟨k', t', ht'⟩ := runFrom_tools hw (p.built.map (·.1)) [w.sinkStage p.sink] (w.chain p).length k [] p.input t
  refine ⟨_, k', t', Eq.trans ?_ ht'⟩
  rw [← htools]
  refine Eq.trans ?_ ht
  rw [chain, List.append_assoc]
  rfl

theorem runFrom_sink (w : Wrapper σ) (sink : Option (String × String)) (total k : Nat) (stderr data : Bytes)
    (s : Session σ) :
    (∃ e t u, (w.sinkStage sink).run data t = (.error e, u) ∧
        Chain.runFrom total k stderr data [w.sinkStage sink] s = (.error e, u)) ∨
      ∃ t u v, (w.sinkStage sink).run data t = (.ok (.success data), u) ∧ v.Alike u ∧
        Chain.runFrom total k stderr data [w.sinkStage sink] s = (.ok ⟨0, data, stderr ++ [], none⟩, v) := by
  have hreport : Action.report (.stageStarted (w.sinkStage sink).name k data.length) s =
    ((.ok () : Except Abort Unit), ⟨s.files, s.events ++ [_], s.state⟩) := rfl
  rw [Chain.runFrom, Action.bind_of_eq_ok hreport, Action.bind_apply]
  rcases hr : (w.sinkStage sink).run data ⟨s.files, s.events ++ [_], s.state⟩ with ⟨e | o, u⟩
  · exact .inl ⟨e, _, u, hr, rfl⟩
  · obtain rfl := output_of_sinkStage hr
    have hstatus : (w.sinkStage sink).status (.success data) = 0 := by cases sink <;> rfl
    let done : List Event := [.stageCompleted (w.sinkStage sink).name k data.length .zero,
      .pipelineCompleted total data.length .zero]
    refine .inr ⟨_, u, ⟨u.files, u.events ++ done, u.state⟩, hr, ⟨rfl, rfl⟩, ?_⟩
    dsimp only
    rw [hstatus, if_neg (by decide)]
    exact Prod.ext rfl (congrArg (Session.mk u.files · u.state) (List.append_assoc ..))

theorem carriedOut_carryOut (hw : w.Determined answer) {p : Plan} (hn : ∀ b ∈ p.built, b.2 = noOutputs)
    (s : Session σ) : CarriedOut w answer p (w.carryOut p s) := by
  obtain ⟨total, k, t, hrun⟩ := run_chain hw p s
  rw [carryOut, Action.bind_apply, hrun]
  cases ho : answer.outcome [] p.input (p.built.map (·.1)) with
  | error e => exact .aborted ho
  | ok o =>
    dsimp only
    by_cases hz : o.status = 0
    · rw [if_neg (by simpa using hz)]
      obtain ⟨e, t', u, hsink, hlast⟩ | ⟨t', u, v, hsink, hv, hlast⟩ :=
        runFrom_sink w p.sink total k o.stderr o.stdout t
      · rw [hlast]
        exact .unwritten ho hz hsink
      · rw [hlast]
        have hp := publish_noOutputs w hn v
        dsimp only
        rw [if_neg (by simp [ChainOutcome.succeeded]), Action.bind_of_eq_ok hp]
        exact .written ho hz hsink hv
    · rw [if_pos hz]
      dsimp only
      rw [if_pos (by simpa [ChainOutcome.succeeded] using hz)]
      exact .failed ho hz

end Wrapper

end ToolPipeline
