import ToolPipeline.Proofs.DataFlow
import ToolPipeline.Proofs.Piping.Unaware

set_option autoImplicit false

/-!
Running a chain in two parts. Watched stages write down that they are run. `Executes` says stage by stage what a
run of a chain comes to; for stages that do not see what was reported it leaves no choice, and it can be put
together from the runs of two parts.
-/

namespace ToolPipeline

variable {σ : Type}

/-- A run of a stage: what it was given, and what it answered. -/
structure Execution (σ : Type) where
  stage : Stage σ
  stdin : Bytes
  answer : Except Abort StageOutput

namespace Execution

def Passed (e : Execution σ) : Prop := ∃ o, e.answer = .ok o ∧ e.stage.status o = 0

end Execution

structure Watched (σ : Type) where
  state : σ
  executions : List (Execution σ)

def Session.watched (s : Session σ) (l : List (Execution σ)) : Session (Watched σ) :=
  ⟨s.files, s.events, ⟨s.state, l⟩⟩

def Session.unwatched (s : Session (Watched σ)) : Session σ := ⟨s.files, s.events, s.state.state⟩

def Stage.watched (x : Stage σ) : Stage (Watched σ) where
  name := x.name
  isTool := x.isTool
  check := x.check
  run stdin := fun s =>
    let (r, t) := x.run stdin s.unwatched
    (r, t.watched (s.state.executions ++ [⟨x, stdin, r⟩]))
  waitFor := x.waitFor

namespace Stage

variable {x : Stage σ} {s t : Session σ}

@[simp] theorem watched_name (x : Stage σ) : x.watched.name = x.name := rfl

@[simp] theorem watched_status (x : Stage σ) (o : StageOutput) : x.watched.status o = x.status o := rfl

theorem watched_run {stdin : Bytes} {r : Except Abort StageOutput} (h : x.run stdin s = (r, t))
    (l : List (Execution σ)) : x.watched.run stdin (s.watched l) = (r, t.watched (l ++ [⟨x, stdin, r⟩])) := by
  have hrun : x.watched.run stdin (s.watched l) =
    ((x.run stdin s).1, (x.run stdin s).2.watched (l ++ [⟨x, stdin, (x.run stdin s).1⟩])) := rfl
  rw [hrun, h]

end Stage

def Chain.executions (stages : List (Stage σ)) (s : Session σ) : List (Execution σ) :=
  (run (stages.map Stage.watched) (s.watched [])).2.state.executions

namespace ChainOutcome

def behind (stderr : Bytes) (o : ChainOutcome) : ChainOutcome := { o with stderr := stderr ++ o.stderr }

theorem map_behind_nil (r : Except Abort ChainOutcome) : r.map (behind []) = r := by
  cases r <;> rfl

theorem map_behind_append (r : Except Abort ChainOutcome) (b c : Bytes) :
    r.map (behind (b ++ c)) = (r.map (behind c)).map (behind b) := by
  cases r with
  | error e => rfl
  | ok o => simp [behind, Except.map]

theorem map_behind_eq_ok {r : Except Abort ChainOutcome} {b : Bytes} {o : ChainOutcome}
    (h : r.map (behind b) = .ok o) : ∃ o', r = .ok o' ∧ o = o'.behind b := by
  cases r with
  | error e => cases h
  | ok o' => exact ⟨o', rfl, (Except.ok.inj h).symm⟩

theorem map_behind_eq_error {r : Except Abort ChainOutcome} {b : Bytes} {e : Abort}
    (h : r.map (behind b) = .error e) : r = .error e := by
  cases r with
  | error e' => exact congrArg _ (Except.error.inj h)
  | ok o => cases h

end ChainOutcome

namespace Chain

open ChainOutcome (behind)

/-- What a run of stages comes to, one stage after another. Each of them starts from a session that is like the one
the stage before it left. -/
inductive Executes : List (Stage σ) → Bytes → Session σ → List (Execution σ) → Except Abort ChainOutcome →
    Session σ → Prop
  | nil {data : Bytes} {s t : Session σ} : s.Alike t → Executes [] data s [] (.ok ⟨0, data, [], none⟩) t
  | aborted {x : Stage σ} {rest : List (Stage σ)} {data : Bytes} {e : Abort} {s u v t : Session σ} :
      s.Alike u → x.run data u = (.error e, v) → v.Alike t →
        Executes (x :: rest) data s [⟨x, data, .error e⟩] (.error e) t
  | failed {x : Stage σ} {rest : List (Stage σ)} {data : Bytes} {o : StageOutput} {s u v t : Session σ} :
      s.Alike u → x.run data u = (.ok o, v) → x.status o ≠ 0 → v.Alike t →
        Executes (x :: rest) data s [⟨x, data, .ok o⟩] (.ok ⟨x.status o, o.stdout, o.stderr, some x.name⟩) t
  | passed {x : Stage σ} {rest : List (Stage σ)} {data : Bytes} {o : StageOutput} {s u v t : Session σ}
      {l : List (Execution σ)} {r : Except Abort ChainOutcome} :
      s.Alike u → x.run data u = (.ok o, v) → x.status o = 0 → Executes rest o.stdout v l r t →
        Executes (x :: rest) data s (⟨x, data, .ok o⟩ :: l) (r.map (behind o.stderr)) t

variable {A B stages : List (Stage σ)} {x : Stage σ} {data : Bytes} {s s' t t' : Session σ}
  {l l' : List (Execution σ)} {r r' : Except Abort ChainOutcome}

theorem Executes.of_alike (h : Executes stages data s' l r t) (hs : s.Alike s') : Executes stages data s l r t := by
  cases h with
  | nil h => exact .nil (hs.trans h)
  | aborted h hx ht => exact .aborted (hs.trans h) hx ht
  | failed h hx hn ht => exact .failed (hs.trans h) hx hn ht
  | passed h hx hz hrest => exact .passed (hs.trans h) hx hz hrest

theorem exists_report (e : Event) (s : Session σ) : ∃ t, s.Alike t ∧
    (Action.report e : Action σ Abort Unit) s = (.ok (), t) ∧
    ∀ l, (Action.report e : Action (Watched σ) Abort Unit) (s.watched l) = (.ok (), t.watched l) :=
  ⟨⟨s.files, s.events ++ [e], s.state⟩, ⟨rfl, rfl⟩, rfl, fun _ => rfl⟩

/-- Watched or not, stages come to the same, and what is written down is what was run. -/
theorem executes_runFrom (total position : Nat) (stderr data : Bytes) (stages : List (Stage σ)) (s : Session σ)
    (l : List (Execution σ)) : ∃ made r t, Executes stages data s made r t ∧
      runFrom total position stderr data stages s = (r.map (behind stderr), t) ∧
      runFrom total position stderr data (stages.map Stage.watched) (s.watched l) =
        (r.map (behind stderr), t.watched (l ++ made)) := by
  -- Over the stages. The position and the error output so far have no part in what the stages are given.
  induction stages generalizing position stderr data s l with
  | nil =>
    obtain ⟨t, hs, hreport, hwatched⟩ := exists_report (.pipelineCompleted total data.length .zero) s
    refine ⟨[], _, t, .nil hs, ?_, ?_⟩
    · rw [runFrom, Action.bind_of_eq_ok hreport, Except.map, behind, List.append_nil]
      rfl
    · rw [List.map_nil, runFrom, Action.bind_of_eq_ok (hwatched l), Except.map, behind, List.append_nil,
        List.append_nil]
      rfl
  | cons x stages ih =>
    obtain ⟨u, hu, hstarted, hstarted'⟩ := exists_report (.stageStarted x.name position data.length) s
    rcases hx : x.run data u with ⟨e | o, v⟩
    · refine ⟨_, _, v, .aborted hu hx (.refl v), ?_, ?_⟩
      · rw [runFrom, Action.bind_of_eq_ok hstarted, Action.bind_apply, hx]
        rfl
      · rw [List.map_cons, runFrom, Stage.watched_name, Action.bind_of_eq_ok (hstarted' l), Action.bind_apply,
          Stage.watched_run hx]
        rfl
    · by_cases hz : x.status o = 0
      · obtain ⟨w, hw, hdone, hdone'⟩ := exists_report (.stageCompleted x.name position o.stdout.length .zero) v
        obtain ⟨made, r, t, hrest, hplain, hwatched⟩ :=
          ih (position + 1) (stderr ++ o.stderr) o.stdout w (l ++ [⟨x, data, .ok o⟩])
        refine ⟨_, _, t, .passed hu hx hz (hrest.of_alike hw), ?_, ?_⟩
        · rw [runFrom, Action.bind_of_eq_ok hstarted, Action.bind_of_eq_ok hx, if_neg (not_not_intro hz),
            Action.bind_of_eq_ok hdone, hplain, ChainOutcome.map_behind_append]
        · rw [List.map_cons, runFrom, Stage.watched_name, Action.bind_of_eq_ok (hstarted' l),
            Action.bind_of_eq_ok (Stage.watched_run hx l), Stage.watched_status, if_neg (not_not_intro hz),
            Action.bind_of_eq_ok (hdone' _), hwatched, ChainOutcome.map_behind_append, List.append_assoc]
          rfl
      · obtain ⟨w, hw, hfailed, hfailed'⟩ := exists_report (.stageFailed x.name position (x.status o)) v
        refine ⟨_, _, w, .failed hu hx hz hw, ?_, ?_⟩
        · rw [runFrom, Action.bind_of_eq_ok hstarted, Action.bind_of_eq_ok hx, if_pos hz,
            Action.bind_of_eq_ok hfailed]
          rfl
        · rw [List.map_cons, runFrom, Stage.watched_name, Action.bind_of_eq_ok (hstarted' l),
            Action.bind_of_eq_ok (Stage.watched_run hx l), Stage.watched_status, if_pos hz,
            Action.bind_of_eq_ok (hfailed' _)]
          rfl

theorem executes_watched (stages : List (Stage σ)) (s : Session σ) : ∃ made r t, Executes stages [] s made r t ∧
    run stages s = (r, t) ∧ run (stages.map Stage.watched) (s.watched []) = (r, t.watched made) := by
  obtain ⟨u, hs, hreport, hreport'⟩ :=
    exists_report (.pipelineStarted stages.length (stages.filter fun x => x.isTool).length) s
  obtain ⟨made, r, t, hmade, hplain, hwatched⟩ := executes_runFrom stages.length 1 [] [] stages u []
  have htools : (stages.map Stage.watched).filter (fun x => x.isTool) =
      (stages.filter fun x => x.isTool).map Stage.watched := List.filter_map
  rw [ChainOutcome.map_behind_nil] at hplain hwatched
  refine ⟨made, r, t, hmade.of_alike hs, ?_, ?_⟩
  · rw [run, Action.bind_of_eq_ok hreport, hplain]
  · rw [run, htools, List.length_map, List.length_map, Action.bind_of_eq_ok (hreport' []), hwatched]
    rfl

theorem run_watched (stages : List (Stage σ)) (s : Session σ) : run (stages.map Stage.watched) (s.watched []) =
    ((run stages s).1, (run stages s).2.watched (executions stages s)) := by
  obtain ⟨made, r, t, -, hplain, hwatched⟩ := executes_watched stages s
  rw [executions, hwatched, hplain]
  rfl

/-- Only what a stage answers and leaves counts when it does not see what was reported. -/
theorem run_unique (hx : x.Unaware) (hs : s.Alike s') {u v : Session σ} {r : Except Abort StageOutput}
    (hu : s.Alike u) (h : x.run data u = (r, v)) ⦃u' v' : Session σ⦄ ⦃r' : Except Abort StageOutput⦄
    (hu' : s'.Alike u') (h' : x.run data u' = (r', v')) : r = r' ∧ v.Alike v' := by
  have hend := hx data u u' ((hu.symm.trans hs).trans hu')
  rw [h, h'] at hend
  exact ⟨hend.answer_eq, hend.session_alike⟩

theorem Executes.unique (hstages : ∀ x ∈ stages, x.Unaware) (h : Executes stages data s l r t) (hs : s.Alike s')
    (h' : Executes stages data s' l' r' t') : l = l' ∧ r = r' ∧ t.Alike t' := by
  -- Over the first run. Its stage answers the same in both runs, so the second one cannot take another branch.
  induction h generalizing s' l' r' t' with
  | nil hu =>
    cases h' with
    | nil hu' => exact ⟨rfl, rfl, (hu.symm.trans hs).trans hu'⟩
  | aborted hu hx ht =>
    have hunique := run_unique (hstages _ List.mem_cons_self) hs hu hx
    cases h' with
    | aborted hu' hx' ht' =>
      obtain ⟨he, hv⟩ := hunique hu' hx'
      cases he
      exact ⟨rfl, rfl, (ht.symm.trans hv).trans ht'⟩
    | failed hu' hx' => cases (hunique hu' hx').1
    | passed hu' hx' => cases (hunique hu' hx').1
  | failed hu hx hn ht =>
    have hunique := run_unique (hstages _ List.mem_cons_self) hs hu hx
    cases h' with
    | aborted hu' hx' => cases (hunique hu' hx').1
    | failed hu' hx' _ ht' =>
      obtain ⟨he, hv⟩ := hunique hu' hx'
      cases he
      exact ⟨rfl, rfl, (ht.symm.trans hv).trans ht'⟩
    | passed hu' hx' hz' =>
      cases (hunique hu' hx').1
      exact absurd hz' hn
  | passed hu hx hz _ ih =>
    have hunique := run_unique (hstages _ List.mem_cons_self) hs hu hx
    cases h' with
    | aborted hu' hx' => cases (hunique hu' hx').1
    | failed hu' hx' hn' =>
      cases (hunique hu' hx').1
      exact absurd hz hn'
    | passed hu' hx' _ hrest' =>
      obtain ⟨he, hv⟩ := hunique hu' hx'
      cases he
      obtain ⟨rfl, rfl, ht⟩ := ih (List.forall_mem_cons.1 hstages).2 hv hrest'
      exact ⟨rfl, rfl, ht⟩

theorem Executes.append (h : Executes A data s l r t) {o : ChainOutcome} (hr : r = .ok o) (ho : o.status = 0)
    (h' : Executes B o.stdout t l' r' t') : Executes (A ++ B) data s (l ++ l') (r'.map (behind o.stderr)) t' := by
  -- The run of `A` ends where no stage is left; what it came to until then is put in front step by step.
  induction h generalizing o with
  | nil hs =>
    cases hr
    rw [ChainOutcome.map_behind_nil]
    exact h'.of_alike hs
  | aborted => cases hr
  | failed _ _ hn =>
    cases hr
    exact absurd ho hn
  | passed hu hx hz _ ih =>
    obtain ⟨o', rfl, rfl⟩ := ChainOutcome.map_behind_eq_ok hr
    have hrest := Executes.passed hu hx hz (ih rfl ho h')
    rw [← ChainOutcome.map_behind_append] at hrest
    exact hrest

/-- How the outcome of a chain that is given `data` follows from the runs of its stages, of which those with an
output left `outputs`. -/
structure Accounts (stages : List (Stage σ)) (data : Bytes) (l : List (Execution σ)) (r : Except Abort ChainOutcome)
    (outputs : List StageOutput) : Prop where
  in_order : l.map (·.stage) <+: stages
  fed : l.map (·.stdin) <+: stdins data outputs
  ok : ∀ o, r = .ok o → l.map (·.answer) = outputs.map .ok ∧ o.stderr = outputs.flatMap (·.stderr) ∧
    o.stdout = lastOutput data outputs
  succeeded_iff : (∃ o, r = .ok o ∧ o.status = 0) ↔ l.map (·.stage) = stages ∧ ∀ e ∈ l, e.Passed
  succeeded : ∀ o, r = .ok o → o.status = 0 → o.failedStage = none
  /-- The first status other than zero is that of the last stage that is run. -/
  failed : ∀ o, r = .ok o → o.status ≠ 0 → ∃ front x stdin a, l = front ++ [⟨x, stdin, .ok a⟩] ∧
    (∀ e ∈ front, e.Passed) ∧ o.status = x.status a ∧ o.stdout = a.stdout ∧ o.failedStage = some x.name
  aborted : ∀ e, r = .error e → ∃ front x stdin, l = front ++ [⟨x, stdin, .error e⟩] ∧ (∀ e ∈ front, e.Passed) ∧
    front.map (·.answer) = outputs.map .ok

namespace Accounts

variable {o : StageOutput} {outputs : List StageOutput} {rest : List (Stage σ)}

theorem nil (data : Bytes) : Accounts ([] : List (Stage σ)) data [] (.ok ⟨0, data, [], none⟩) [] where
  in_order := List.nil_prefix
  fed := List.nil_prefix
  ok o h := by cases h; exact ⟨rfl, rfl, rfl⟩
  succeeded_iff := ⟨fun _ => ⟨rfl, List.forall_mem_nil _⟩, fun _ => ⟨_, rfl, rfl⟩⟩
  succeeded o h _ := by cases h; rfl
  failed o h hn := by cases h; exact absurd rfl hn
  aborted := nofun

theorem cons (data : Bytes) (hz : x.status o = 0) (h : Accounts rest o.stdout l r outputs) :
    Accounts (x :: rest) data (⟨x, data, .ok o⟩ :: l) (r.map (behind o.stderr)) (o :: outputs) where
  in_order := List.cons_prefix_cons.2 ⟨rfl, h.in_order⟩
  fed := List.cons_prefix_cons.2 ⟨rfl, h.fed⟩
  ok o' hr := by
    obtain ⟨o', rfl, rfl⟩ := ChainOutcome.map_behind_eq_ok hr
    obtain ⟨hanswers, hstderr, hstdout⟩ := h.ok o' rfl
    refine ⟨?_, ?_, ?_⟩
    · rw [List.map_cons, List.map_cons, hanswers]
    · rw [List.flatMap_cons, ← hstderr]
      rfl
    · rw [lastOutput_cons, ← hstdout]
      rfl
  succeeded_iff := by
    have hiff : (∃ o', r.map (behind o.stderr) = .ok o' ∧ o'.status = 0) ↔ ∃ o', r = .ok o' ∧ o'.status = 0 := by
      constructor
      · rintro ⟨o', hr, ho⟩
        obtain ⟨o', rfl, rfl⟩ := ChainOutcome.map_behind_eq_ok hr
        exact ⟨o', rfl, ho⟩
      · rintro ⟨o', rfl, ho⟩
        exact ⟨o'.behind o.stderr, rfl, ho⟩
    have hpassed : Execution.Passed ⟨x, data, .ok o⟩ := ⟨o, rfl, hz⟩
    rw [hiff, h.succeeded_iff, List.map_cons, List.cons_inj_right, List.forall_mem_cons]
    exact and_congr_right fun _ => (and_iff_right hpassed).symm
  succeeded o' hr hs := by
    obtain ⟨o', rfl, rfl⟩ := ChainOutcome.map_behind_eq_ok hr
    exact h.succeeded o' rfl hs
  failed o' hr hs := by
    obtain ⟨o', rfl, rfl⟩ := ChainOutcome.map_behind_eq_ok hr
    obtain ⟨front, y, stdin, a, rfl, hfront, hlast⟩ := h.failed o' rfl hs
    exact ⟨⟨x, data, .ok o⟩ :: front, y, stdin, a, rfl, List.forall_mem_cons.2 ⟨⟨o, rfl, hz⟩, hfront⟩, hlast⟩
  aborted e hr := by
    obtain ⟨front, y, stdin, rfl, hfront, hanswers⟩ := h.aborted e (ChainOutcome.map_behind_eq_error hr)
    refine ⟨⟨x, data, .ok o⟩ :: front, y, stdin, rfl, List.forall_mem_cons.2 ⟨⟨o, rfl, hz⟩, hfront⟩, ?_⟩
    rw [List.map_cons, List.map_cons, hanswers]

end Accounts

end Chain

def Config.bare : Config := ⟨"tools", none, ⟨∅⟩, none, none⟩

def Session.bare : Session Catalog := ⟨⟨∅, []⟩, [], ∅⟩

namespace Chain

end Chain

end ToolPipeline
