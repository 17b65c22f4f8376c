import ToolPipeline.InProcess.Executor
import ToolPipeline.Proofs.Phases
import ToolPipeline.Shell.Process

set_option autoImplicit false

/-!
Failures that are meant to come before anything is run. A syntax, resolution, localization or configuration
error may still follow a stage that ran, and this is when it does.
-/

namespace ToolPipeline

open Made

variable {σ : Type}

def RunError.isEarly : RunError → Bool
  | malformedLine _ | resolution _ | localization _ | configuration _ => true
  | execution .. | start _ => false

/-- Whether a stage was executed. An executor that gives no output has not started its command. -/
def Call.isExecuted : Call → Bool
  | ⟨.run .., .ok _⟩ => true
  | _ => false

def Untouched (l : List Call) : Prop := ∀ c ∈ l, c.isExecuted = false ∧ c.request.publishes = false

instance (l : List Call) : Decidable (Untouched l) := inferInstanceAs (Decidable (∀ c ∈ l, _))

theorem Call.isExecuted_of_not_isRun {c : Call} (h : c.request.isRun = false) : c.isExecuted = false := by
  obtain ⟨request, answer⟩ := c
  cases request with
  | run => cases h
  | _ => rfl

theorem Request.publishes_of_isRun {r : Request} (h : r.isRun = true) : r.publishes = false := by
  cases r <;> first | rfl | cases h

/-- An executor that cannot start a process leaves everything as it was. -/
theorem processExecutor_refuses {shell commandLine workingDir : String} {stdin : Bytes} {s t : Session σ}
    {a : Abort} (h : (processExecutor shell).run commandLine workingDir stdin s = (.error a, t)) :
    t = s ∧ ∃ e, a = .error (.start e) := by
  simp only [processExecutor] at h
  rw [Action.bind_apply, Action.get_apply] at h
  dsimp only at h
  cases hr : Shell.runCommand shell commandLine workingDir stdin s.files with
  | error e =>
    rw [hr] at h
    cases h
    exact ⟨rfl, e, rfl⟩
  | ok r =>
    rw [hr] at h
    cases h

namespace Action

variable {ε δ α β : Type} {E : ε → Prop}

def FailsOnlyBy (E : ε → Prop) (a : Action σ ε α) : Prop :=
  ∀ s, (a s).2.files = s.files ∧ ∀ e, (a s).1 = .error e → E e

theorem FailsOnlyBy.mono {a : Action σ ε α} {D : ε → Prop} (ha : a.FailsOnlyBy D) (h : ∀ e, D e → E e) :
    a.FailsOnlyBy E := fun s => ⟨(ha s).1, fun e he => h e ((ha s).2 e he)⟩

theorem failsOnlyBy_pure (x : α) : (pure x : Action σ ε α).FailsOnlyBy E := fun _ => ⟨rfl, nofun⟩

theorem failsOnlyBy_throw {e : ε} (he : E e) : (throw e : Action σ ε α).FailsOnlyBy E :=
  fun _ => ⟨rfl, fun _ h => by cases h; exact he⟩

theorem failsOnlyBy_report (e : Event) : (report e : Action σ ε Unit).FailsOnlyBy E := fun _ => ⟨rfl, nofun⟩

theorem failsOnlyBy_get : (get : Action σ ε (Session σ)).FailsOnlyBy E := fun _ => ⟨rfl, nofun⟩

theorem FailsOnlyBy.bind {a : Action σ ε α} {f : α → Action σ ε β} (ha : a.FailsOnlyBy E)
    (hf : ∀ x, (f x).FailsOnlyBy E) : (a >>= f).FailsOnlyBy E := by
  intro s
  rw [bind_apply]
  have hs := ha s
  generalize a s = p at hs
  rcases p with ⟨e | x, t⟩
  · exact ⟨hs.1, fun e' h => by cases h; exact hs.2 e rfl⟩
  · exact ⟨(hf x t).1.trans hs.1, (hf x t).2⟩

theorem failsOnlyBy_reports (l : List Event) : (l.forM report : Action σ ε Unit).FailsOnlyBy E := by
  induction l with
  | nil => exact failsOnlyBy_pure ()
  | cons e l ih => exact (failsOnlyBy_report e).bind fun _ => ih

theorem FailsOnlyBy.mapError {a : Action σ δ α} {D : δ → Prop} {rename : δ → ε} (ha : a.FailsOnlyBy D)
    (hr : ∀ d, D d → E (rename d)) : (mapError rename a).FailsOnlyBy E := by
  intro s
  rw [mapError_apply]
  have hs := ha s
  generalize a s = p at hs
  rcases p with ⟨d | x, t⟩
  · exact ⟨hs.1, fun e h => by cases h; exact hr d (hs.2 d rfl)⟩
  · exact ⟨hs.1, nofun⟩

end Action

theorem resolveEntryPoint_failsOnlyBy (lookup : String → Option EntryPoint) (workingDir commandLine : String) :
    (resolveEntryPoint lookup workingDir commandLine : Action σ _ _).FailsOnlyBy fun _ => True := by
  unfold resolveEntryPoint
  generalize (Arguments.split commandLine).reverse = before, ([] : List String) = after
  induction before generalizing after with
  | nil => exact Action.failsOnlyBy_throw trivial
  | cons token before ih =>
    unfold EntryPointSearch.search
    refine .bind Action.failsOnlyBy_get fun s => ?_
    have found (name : String) (e : EntryPoint) : Action.FailsOnlyBy (σ := σ) (fun _ : Stop ResolutionError => True)
        (do
          Action.report (.entryPointResolved name token after.length)
          pure (⟨name, token, e, after⟩ : ResolvedEntryPoint)) :=
      .bind (Action.failsOnlyBy_report _) fun _ => Action.failsOnlyBy_pure _
    dsimp only
    split
    · refine .bind (Action.failsOnlyBy_pure _) fun names => ?_
      split
      · exact found _ _
      · exact ih _
    · refine .bind (Action.failsOnlyBy_throw trivial) fun names => ?_
      split
      · exact found _ _
      · exact ih _
    · refine .bind (Action.failsOnlyBy_report _) fun _ => .bind (Action.failsOnlyBy_pure _) fun names => ?_
      split
      · exact found _ _
      · exact ih _

theorem invoke_failsOnlyBy (name : String) (entryPoint : EntryPoint) (arguments : List String) (stdin : Bytes)
    (workingDir : String) :
    (invoke name entryPoint arguments stdin workingDir : Action σ _ _).FailsOnlyBy
      fun a => ∃ message, a = .crash message := by
  refine .bind Action.failsOnlyBy_get fun s => ?_
  dsimp only
  split
  · exact Action.failsOnlyBy_throw ⟨_, rfl⟩
  · exact .bind (Action.failsOnlyBy_reports _) fun _ => Action.failsOnlyBy_pure _

/-- An executor of entry points changes no file. It gives no output when it finds no entry point, or when an
entry point breaks down. -/
theorem inProcessExecutor_failsOnlyBy (lookup : String → Option EntryPoint) (commandLine workingDir : String)
    (stdin : Bytes) : ((inProcessExecutor lookup).run commandLine workingDir stdin : Action σ _ _).FailsOnlyBy
      fun a => (∃ e, a = .error (.resolution e)) ∨ ∃ message, a = .crash message := by
  refine .bind (.mapError (resolveEntryPoint_failsOnlyBy lookup workingDir commandLine) fun d _ => ?_) fun r => ?_
  · cases d with
    | error e => exact .inl ⟨e, rfl⟩
    | crash message => exact .inr ⟨message, rfl⟩
  · refine .bind ((invoke_failsOnlyBy _ _ _ _ _).mono fun _ => .inr) fun i => ?_
    exact Action.failsOnlyBy_pure _

namespace Wrapper

variable {w : Wrapper σ} {l : List Call}

theorem quiet_of_prepares {line : String} {s : Session σ} {r : Except Abort Plan} (h : w.Prepares line s r l) :
    ∀ c ∈ l, c.request.isRun = false ∧ c.request.publishes = false := by
  obtain ⟨localizes, reads, rfl, hprep⟩ := preparation_of_prepares h
  refine List.forall_mem_append.2 ⟨fun c hc => ?_, fun c hc => ?_⟩
  · obtain ⟨_, _, he⟩ := hprep.localizes_only c hc
    simp [he, Request.isRun, Request.publishes]
  · obtain ⟨_, he⟩ := hprep.reads_one.2 c hc
    simp [he, Request.isRun, Request.publishes]

theorem publishes_of_carriesOut {plan : Plan} {r : Except Abort String} (h : w.CarriesOut plan r l) :
    ∃ runs rest, l = runs ++ rest ∧ (∀ c ∈ runs, c.request.isRun = true) ∧
      ∀ c ∈ rest, c.request.publishes = true := by
  obtain ⟨runs, writes, publishes, rfl, hr, ⟨-, hw⟩, hp⟩ := calls_of_carriesOut h
  refine ⟨runs, writes ++ publishes, List.append_assoc .., hr, fun c hc => ?_⟩
  rcases List.mem_append.1 hc with hc | hc
  · obtain ⟨_, _, he⟩ := hw c hc
    rw [he]
    rfl
  · rcases hp with ⟨rfl, -⟩ | ⟨_, _, hp, -⟩
    · cases hc
    · obtain ⟨_, _, he⟩ := deliveries_of_publishesAll hp c hc
      rw [he]
      rfl

/-- Calls that change a storage stand behind all others, so there are none if the last call is not one. -/
theorem eq_nil_of_last {runs rest before : List Call} {c : Call} (h : l ++ (runs ++ rest) = before ++ [c])
    (hrest : ∀ d ∈ rest, d.request.publishes = true) (hc : c.request.publishes = false) : rest = [] := by
  rcases List.eq_nil_or_concat' rest with hn | ⟨front, d, rfl⟩
  · exact hn
  · have hlast : (l ++ (runs ++ (front ++ [d]))).getLast? = some d := by simp
    rw [h, List.getLast?_concat, Option.some.injEq] at hlast
    cases (hlast ▸ hc).symm.trans (hrest d (by simp))

theorem untouched_of_last {plan : Plan} {r : Except Abort String} {before m : List Call} {t : ToolStage}
    {stdin : Bytes} {a : Abort} (hl : ∀ c ∈ l, c.request.isRun = false ∧ c.request.publishes = false)
    (hc : w.CarriesOut plan r m) (hb : l ++ m = before ++ [ToolStage.call t stdin (.error a)])
    (hn : ∀ c ∈ before, c.request.isRun = false) : Untouched (l ++ m) := by
  obtain ⟨runs, rest, rfl, hruns, hrest⟩ := publishes_of_carriesOut hc
  obtain rfl := eq_nil_of_last hb hrest rfl
  rw [List.append_nil] at hb ⊢
  refine fun c hm => ⟨?_, ?_⟩
  · rcases List.mem_append.1 (hb ▸ hm) with hc | hc
    · exact Call.isExecuted_of_not_isRun (hn c hc)
    · rw [List.mem_singleton.1 hc]
      rfl
  · rcases List.mem_append.1 hm with hm | hm
    · exact (hl c hm).2
    · exact Request.publishes_of_isRun (hruns c hm)

theorem aborted_of_untouched {plan : Plan} {e : RunError} (h : w.CarriesOut plan (.error (.error e)) l)
    (hl : Untouched l) :
    ∃ t stdin, l = [ToolStage.call t stdin (.error (.error e))] := by
  obtain ⟨passed, halt, runs, rest, rfl, hd, hr⟩ := runs_of_carriesOut h
  generalize ht : plan.built.map (·.1) = tools at hd
  cases hd with
  | passed => cases (hl _ List.mem_cons_self).1
  | failed => cases (hl _ List.mem_cons_self).1
  | aborted =>
    cases hr
    exact ⟨_, _, rfl⟩
  | nil =>
    -- A plan without stages has nothing to publish, so that only writing its file can fail.
    cases hr with
    | finished hf =>
      cases hf with
      | stop hw =>
        obtain ⟨_, _, -, -, rfl⟩ := error_of_writesSink hw
        cases (hl _ List.mem_cons_self).2
      | step _ hf =>
        cases hf with
        | stop hp =>
          obtain ⟨b, hb, -⟩ := hp.of_error
          rw [List.map_eq_nil_iff.1 ht] at hb
          cases hb
        | step _ hs => cases hs

end Wrapper

/-- A run that fails has touched nothing exactly if its line could not be prepared or the executor of its
first stage failed. -/
theorem Wrapper.wrap_untouched_iff (w : Wrapper σ) (line : String) (s : Session σ) (e : RunError)
    (h : (w.wrap line s).1 = .error (.error e)) :
    Untouched (w.trace line s) ↔ (∃ a, (w.prepare line s).1 = .error a) ∨
      ∃ before t stdin, w.trace line s = before ++ [ToolStage.call t stdin (.error (.error e))] ∧
        ∀ c ∈ before, c.request.isRun = false := by
  obtain ⟨l, m, ht, hp, ⟨plan, hplan, hc⟩ | ⟨a, ha, -, rfl⟩⟩ := w.trace_eq_append line s
  · have hq := quiet_of_prepares hp
    rw [h] at hc
    rw [ht]
    constructor
    · intro hu
      obtain ⟨t, stdin, rfl⟩ := aborted_of_untouched hc fun c hm => hu c (List.mem_append_right _ hm)
      exact .inr ⟨l, t, stdin, rfl, fun c hm => (hq c hm).1⟩
    · rintro (⟨a, ha⟩ | ⟨before, t, stdin, hb, hn⟩)
      · cases hplan.symm.trans ha
      · exact untouched_of_last hq hc hb hn
  · have hq := quiet_of_prepares hp
    rw [ht, List.append_nil]
    exact ⟨fun _ => .inl ⟨a, ha⟩, fun _ c hm => ⟨Call.isExecuted_of_not_isRun (hq c hm).1, (hq c hm).2⟩⟩

theorem Wrapper.wrap_untouched_iff_lost :
    (echoing.wrap "text lost" .blank).1 = .error (.error (.resolution (.entryPointNotFound "lost"))) ∧
      (Untouched (echoing.trace "text lost" .blank) ↔ (∃ a, (echoing.prepare "text lost" .blank).1 = .error a) ∨
        ∃ before t stdin, echoing.trace "text lost" .blank =
            before ++ [ToolStage.call t stdin (.error (.error (.resolution (.entryPointNotFound "lost"))))] ∧
          ∀ c ∈ before, c.request.isRun = false) := by
  have h : (echoing.wrap "text lost" .blank).1 = .error (.error (.resolution (.entryPointNotFound "lost"))) := by
    decide +kernel
  exact ⟨h, echoing.wrap_untouched_iff _ _ _ h⟩

/-- A stage that ran is followed by a resolution error of the next one. -/
theorem Wrapper.early_failure_after_execution :
    ∃ e, (echoing.wrap "text cat | text lost" .blank).1 = .error (.error e) ∧ e.isEarly = true ∧
      ¬ Untouched (echoing.trace "text cat | text lost" .blank) :=
  ⟨.resolution (.entryPointNotFound "lost"), by decide +kernel, rfl, by decide +kernel⟩

end ToolPipeline
