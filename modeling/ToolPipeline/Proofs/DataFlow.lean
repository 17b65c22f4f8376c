import ToolPipeline.InProcess.Builtins
import ToolPipeline.InProcess.Executor
import ToolPipeline.Proofs.Publishing

set_option autoImplicit false

/-!
The bytes that pass through the stages of a plan, and what the caller gets in the end.
-/

namespace ToolPipeline

open Made

variable {σ : Type}

inductive Halt where
  | finished
  | failed (o : StageOutput)
  | aborted (a : Abort)

/-- The answer that nothing is run after. -/
def Halt.answers : Halt → List (Except Abort StageOutput)
  | finished => []
  | failed o => [.ok o]
  | aborted a => [.error a]

/-- What stages are given: the input, and then what the stage before wrote. -/
def stdins (input : Bytes) (passed : List StageOutput) : List Bytes := input :: passed.map (·.stdout)

def lastOutput (input : Bytes) (passed : List StageOutput) : Bytes := (passed.map (·.stdout)).getLastD input

theorem lastOutput_cons (input : Bytes) (o : StageOutput) (passed : List StageOutput) :
    lastOutput input (o :: passed) = lastOutput o.stdout passed := by
  rw [lastOutput, List.map_cons, List.getLastD_cons, lastOutput]

/-- Stages are run in their order, each of them once, until one does not pass. -/
structure DataFlow (tools : List ToolStage) (input : Bytes) (passed : List StageOutput) (halt : Halt)
    (runs : List Call) : Prop where
  passed_ok : ∀ o ∈ passed, o.status = 0
  failed_ne : ∀ o, halt = .failed o → o.status ≠ 0
  finished_iff : halt = .finished ↔ passed.length = tools.length
  length_le : passed.length + halt.answers.length ≤ tools.length
  runs_eq : runs = (tools.zip ((stdins input passed).zip (passed.map .ok ++ halt.answers))).map
    fun c => c.1.call c.2.1 c.2.2

inductive Runs : List ToolStage → Bytes → List StageOutput → Halt → List Call → Prop
  | nil {input : Bytes} : Runs [] input [] .finished []
  | aborted {t : ToolStage} {tools : List ToolStage} {input : Bytes} {a : Abort} :
      Runs (t :: tools) input [] (.aborted a) [t.call input (.error a)]
  | failed {t : ToolStage} {tools : List ToolStage} {input : Bytes} {o : StageOutput} : o.status ≠ 0 →
      Runs (t :: tools) input [] (.failed o) [t.call input (.ok o)]
  | passed {t : ToolStage} {tools : List ToolStage} {input : Bytes} {o : StageOutput} {os : List StageOutput}
      {halt : Halt} {runs : List Call} : o.status = 0 → Runs tools o.stdout os halt runs →
      Runs (t :: tools) input (o :: os) halt (t.call input (.ok o) :: runs)

namespace Runs

variable {tools : List ToolStage} {input : Bytes} {passed : List StageOutput} {halt : Halt} {runs : List Call}

theorem dataFlow (h : Runs tools input passed halt runs) : DataFlow tools input passed halt runs := by
  induction h with
  | nil => exact ⟨by simp, nofun, by simp, by simp [Halt.answers], by simp⟩
  | aborted => exact ⟨by simp, nofun, by simp, by simp [Halt.answers], by simp [Halt.answers, stdins]⟩
  | failed ho =>
    refine ⟨by simp, fun _ h => ?_, by simp, by simp [Halt.answers], by simp [Halt.answers, stdins]⟩
    cases h
    exact ho
  | @passed t tools input o os halt runs ho _ ih =>
    have := ih.length_le
    refine ⟨by simpa [ho] using ih.passed_ok, ih.failed_ne, by simpa using ih.finished_iff, ?_, ?_⟩
    · simp only [List.length_cons]
      omega
    · rw [ih.runs_eq]
      simp [stdins]

theorem finished_of_succeeded (h : Runs tools input passed halt runs) (hr : ∀ c ∈ runs, c.Succeeded) :
    halt = .finished := by
  induction h with
  | nil => rfl
  | aborted => cases hr _ List.mem_cons_self
  | failed ho => exact absurd (hr _ List.mem_cons_self) ho
  | passed _ _ ih => exact ih fun c hc => hr c (List.mem_cons_of_mem _ hc)

theorem isRun (h : Runs tools input passed halt runs) : ∀ c ∈ runs, c.request.isRun = true := by
  induction h with
  | nil => simp
  | aborted | failed => simp [ToolStage.call, Request.isRun]
  | passed _ _ ih => simpa [ToolStage.call, Request.isRun] using ih

def Closing : Halt → Made Abort String
  | .finished, r, l => Orderly id r l
  | .failed o, r, l => (∃ output, r = .error (.error (.execution o.status output))) ∧ l = []
  | .aborted a, r, l => r = .error a ∧ l = []

theorem orderly (h : Runs tools input passed halt runs) {r : Except Abort String} {rest : List Call}
    (hr : Closing halt r rest) : Orderly id r (runs ++ rest) := by
  induction h with
  | nil => exact hr
  | aborted =>
    obtain ⟨rfl, rfl⟩ := hr
    exact .stop (l := []) (by simp) (Call.endsWith_error _ _)
  | failed ho =>
    obtain ⟨⟨output, rfl⟩, rfl⟩ := hr
    exact .stop (l := []) (by simp) ⟨ho, output, rfl⟩
  | passed ho _ ih => exact .cons ho (ih hr)

end Runs

inductive Remains (last : String × (Bytes → Made Abort StageOutput)) (stderr data : Bytes)
    (passed : List StageOutput) : Halt → Made Abort ChainOutcome
  | finished {r : Except Abort ChainOutcome} {l : List Call} :
      Piped [last] (stderr ++ passed.flatMap (·.stderr)) (lastOutput data passed) r l →
      Remains last stderr data passed .finished r l
  | failed {o : StageOutput} {name : Option String} :
      Remains last stderr data passed (.failed o)
        (.ok ⟨o.status, o.stdout, stderr ++ passed.flatMap (·.stderr) ++ o.stderr, name⟩) []
  | aborted {a : Abort} : Remains last stderr data passed (.aborted a) (.error a) []

theorem Remains.cons {last : String × (Bytes → Made Abort StageOutput)} {stderr : Bytes} {o : StageOutput}
    {passed : List StageOutput} {halt : Halt} {r : Except Abort ChainOutcome} {l : List Call}
    (h : Remains last (stderr ++ o.stderr) o.stdout passed halt r l) (data : Bytes) :
    Remains last stderr data (o :: passed) halt r l := by
  have he : stderr ++ (o :: passed).flatMap (·.stderr) = stderr ++ o.stderr ++ passed.flatMap (·.stderr) := by
    simp
  cases h with
  | finished h => exact .finished (by rw [he, lastOutput_cons]; exact h)
  | failed => rw [← he]; exact .failed
  | aborted => exact .aborted

theorem Piped.runs {tools : List ToolStage} {last : String × (Bytes → Made Abort StageOutput)}
    {stderr data : Bytes} {r : Except Abort ChainOutcome} {l : List Call}
    (h : Piped (tools.map (fun t => (t.label, Wrapper.RunsTool t)) ++ [last]) stderr data r l) :
    ∃ passed halt runs rest, l = runs ++ rest ∧ Runs tools data passed halt runs ∧
      Remains last stderr data passed halt r rest := by
  induction tools generalizing stderr data r l with
  | nil => exact ⟨[], .finished, [], l, rfl, .nil, .finished (by simpa [lastOutput] using h)⟩
  | cons t tools ih =>
    cases h with
    | abort h =>
      cases h
      exact ⟨[], .aborted _, _, [], (List.append_nil _).symm, .aborted, .aborted⟩
    | @fail _ _ _ _ _ o _ h ho =>
      cases h
      have hf : Remains last stderr data [] (.failed o)
          (.ok ⟨o.status, o.stdout, stderr ++ [] ++ o.stderr, some t.label⟩) [] := .failed
      rw [List.append_nil] at hf
      exact ⟨[], .failed o, _, [], (List.append_nil _).symm, .failed ho, hf⟩
    | @pass _ _ _ _ _ o _ _ m h ho hr =>
      cases h
      obtain ⟨passed, halt, runs, rest, rfl, hd, hs⟩ := ih hr
      exact ⟨o :: passed, halt, _, rest, rfl, .passed ho hd, hs.cons data⟩

namespace Plan

def input (p : Plan) : Bytes := (p.source.map (·.2)).getD []

end Plan

def sinkCalls (sink : Option (String × String)) (data : Bytes) (answer : Except Abort Unit) : List Call :=
  (sink.map fun f => ⟨.write f.2 data, answer⟩).toList

namespace Wrapper

variable (w : Wrapper σ)

structure Delivers (plan : Plan) (data : Bytes) (r : Except Abort String) (l : List Call) : Prop where
  calls : ∃ answer published, l = sinkCalls plan.sink data answer ++ published ∧
    ∀ c ∈ published, ∃ path reference, c.request = .delocalize path reference w.workingDir
  ok_or_error : r = .ok ((plan.sink.map (·.1)).getD (Text.decodeLossy data)) ∨
    ∃ e, r = .error (.error (.localization e))
  ok_iff : (∃ text, r = .ok text) ↔ (∀ c ∈ l, c.Succeeded) ∧ w.Paired plan

def Concluded (plan : Plan) (passed : List StageOutput) : Halt → Made Abort String
  | .finished, r, l => w.Delivers plan (lastOutput plan.input passed) r l
  | .failed o, r, l => r = .error (.error (.execution o.status
      (Text.decodeLossy o.stdout ++ Text.decodeLossy (passed.flatMap (·.stderr) ++ o.stderr)))) ∧ l = []
  | .aborted a, r, l => r = .error a ∧ l = []

def Finishes (plan : Plan) (data : Bytes) : Made Abort String :=
  Then (WritesSink plan.sink data) fun _ =>
  Then (w.PublishesAll plan) fun _ =>
  Silent (.ok ((plan.sink.map (·.1)).getD (Text.decodeLossy data)))

inductive Ends (plan : Plan) (passed : List StageOutput) : Halt → Made Abort String
  | finished {r : Except Abort String} {l : List Call} :
      w.Finishes plan (lastOutput plan.input passed) r l → Ends plan passed .finished r l
  | failed {o : StageOutput} : Ends plan passed (.failed o) (.error (.error (.execution o.status
      (Text.decodeLossy o.stdout ++ Text.decodeLossy (passed.flatMap (·.stderr) ++ o.stderr))))) []
  | aborted {a : Abort} : Ends plan passed (.aborted a) (.error a) []

variable {w} {plan : Plan} {l : List Call}

theorem output_of_writesSink {sink : Option (String × String)} {data : Bytes} {o : StageOutput}
    (h : WritesSink sink data (.ok o) l) : o = .success data := by
  cases sink with
  | none => cases h; rfl
  | some f =>
    obtain ⟨_, _, _, rfl, -, hs⟩ := Then.of_ok h
    cases hs
    rfl

theorem calls_of_writesSink {sink : Option (String × String)} {data : Bytes} {r : Except Abort StageOutput}
    (h : WritesSink sink data r l) : ∃ answer, l = sinkCalls sink data answer := by
  cases sink with
  | none => cases h; exact ⟨.ok (), rfl⟩
  | some f =>
    cases h with
    | stop hw =>
      obtain ⟨_, -, hw⟩ := hw.of_error
      cases hw
      exact ⟨_, rfl⟩
    | step hw hs =>
      have hw := hw.of_ok
      cases hw
      cases hs
      exact ⟨.ok (), rfl⟩

theorem ends_of_remains {name : String} {passed : List StageOutput} {halt : Halt}
    {r : Except Abort String} (h : Then (Remains (name, WritesSink plan.sink) [] plan.input passed halt)
      (w.Concludes plan) r l) (hf : ∀ o, halt = .failed o → o.status ≠ 0) : w.Ends plan passed halt r l := by
  cases h with
  | stop h =>
    cases h with
    | aborted => exact .aborted
    | finished h =>
      cases h with
      | abort h => exact .finished (.stop h)
      | pass _ _ h => cases h
  | step hr hc =>
    cases hr with
    | @failed o _ =>
      rw [Concludes, if_pos (hf o rfl)] at hc
      cases hc
      exact .failed
    | finished h =>
      cases h with
      | fail h hs => rw [output_of_writesSink h] at hs; exact absurd rfl hs
      | pass h _ hn =>
        cases hn
        rw [output_of_writesSink h] at hc
        refine .finished ?_
        rw [List.append_nil]
        exact .step h hc

theorem piped_tools {r : Except Abort ChainOutcome} (h : Piped (w.steps plan) [] [] r l) :
    Piped ((plan.built.map (·.1)).map (fun t => (t.label, RunsTool t)) ++
      [((w.sinkStage plan.sink).name, WritesSink plan.sink)]) [] plan.input r l := by
  unfold steps at h
  unfold Plan.input
  rw [List.map_map]
  cases hs : plan.source with
  | none => rw [hs] at h; exact h
  | some f =>
    rw [hs] at h
    cases h with
    | abort h => cases h
    | fail h ho => cases h; exact absurd rfl ho
    | pass h _ hp => cases h; exact hp

/-- The stages of a plan run one after another, and how they end decides what comes after them. -/
theorem runs_of_carriesOut {r : Except Abort String} (h : w.CarriesOut plan r l) :
    ∃ passed halt runs rest, l = runs ++ rest ∧
      Runs (plan.built.map (·.1)) plan.input passed halt runs ∧ w.Ends plan passed halt r rest := by
  cases h with
  | stop hp =>
    obtain ⟨passed, halt, runs, rest, rfl, hd, hr⟩ := (piped_tools hp).runs
    exact ⟨passed, halt, runs, rest, rfl, hd, ends_of_remains (.stop hr) hd.dataFlow.failed_ne⟩
  | @step _ _ _ m hp hc =>
    obtain ⟨passed, halt, runs, rest, rfl, hd, hr⟩ := (piped_tools hp).runs
    have he := ends_of_remains (.step hr hc) hd.dataFlow.failed_ne
    exact ⟨passed, halt, runs, rest ++ m, List.append_assoc .., hd, he⟩

theorem orderly_writesSink {sink : Option (String × String)} {data : Bytes} {r : Except Abort StageOutput}
    (h : WritesSink sink data r l) : Orderly id r l := by
  cases sink with
  | none => exact Silent.orderly h
  | some f => exact Then.orderly h (fun _ _ hw => hw.orderly fun _ _ hw => hw.orderly rfl) fun _ _ _ hs => hs.orderly

theorem orderly_finishes {data : Bytes} {r : Except Abort String} (h : w.Finishes plan data r l) :
    Orderly id r l := by
  refine Then.orderly h (fun _ _ => orderly_writesSink) fun _ _ _ h => ?_
  exact h.orderly (fun _ _ => orderly_publishesAll) fun _ _ _ hs => hs.orderly

theorem orderly_carriesOut {r : Except Abort String} (h : w.CarriesOut plan r l) : Orderly id r l := by
  obtain ⟨passed, halt, runs, rest, rfl, hd, he⟩ := runs_of_carriesOut h
  refine hd.orderly ?_
  cases he with
  | finished h => exact orderly_finishes h
  | failed => exact ⟨⟨_, rfl⟩, rfl⟩
  | aborted => exact ⟨rfl, rfl⟩

/-- In every run a call that does not succeed is the last one, and it decides how the run ends. -/
theorem orderly_wrap (w : Wrapper σ) (line : String) (s : Session σ) :
    Orderly id (w.wrap line s).1 (w.trace line s) := by
  obtain ⟨l, m, ht, hp, ⟨plan, hplan, hc⟩ | ⟨a, ha, hw, rfl⟩⟩ := w.trace_eq_append line s
  · rw [ht]
    rw [hplan] at hp
    exact .append (orderly_prepares hp).succeeded (orderly_carriesOut hc)
  · rw [ht, hw, List.append_nil]
    rw [ha] at hp
    exact (orderly_prepares hp).of_error

theorem error_of_writesSink {sink : Option (String × String)} {data : Bytes} {a : Abort}
    (h : WritesSink sink data (.error a) l) : ∃ e f, sink = some f ∧ a = .error (.localization e) ∧
      l = [⟨.write f.2 data, .error a⟩] := by
  cases sink with
  | none => cases h
  | some f =>
    cases h with
    | stop hw =>
      obtain ⟨e, rfl, ha⟩ := hw.of_error
      cases ha
      exact ⟨e, f, rfl, rfl, rfl⟩
    | step _ hs => cases hs

theorem error_of_publishesAll {a : Abort} (h : w.PublishesAll plan (.error a) l) :
    ∃ e, a = .error (.localization e) := by
  obtain ⟨b, -, m, hm, -⟩ := h.of_error
  obtain ⟨e, rfl, -⟩ := hm.of_error
  exact ⟨e, rfl⟩

theorem deliveries_of_publishesValue {localized declared : String} {r : Except StorageError Unit}
    (h : w.PublishesValue localized declared r l) :
    ∀ c ∈ l, ∃ path reference, c.request = .delocalize path reference w.workingDir := by
  unfold PublishesValue at h
  split at h
  · cases h; simp
  · exact h.forall_mem fun f _ r l hf => by cases hf; simp

theorem deliveries_of_publishesAll {r : Except Abort Unit} (h : w.PublishesAll plan r l) :
    ∀ c ∈ l, ∃ path reference, c.request = .delocalize path reference w.workingDir := by
  refine h.forall_mem fun b _ r l hb => hb.forall_mem fun r l hb => ?_
  refine All.forall_mem hb fun e _ r l he => ?_
  cases hd : b.2.declared.get? e.1 with
  | none => rw [hd] at he; cases he; simp
  | some d => rw [hd] at he; exact deliveries_of_publishesValue he

theorem delivers_of_finishes {data : Bytes} {r : Except Abort String} (h : w.Finishes plan data r l) :
    w.Delivers plan data r l := by
  have ho := orderly_finishes h
  cases h with
  | stop hw =>
    obtain ⟨e, f, hs, rfl, rfl⟩ := error_of_writesSink hw
    refine ⟨⟨.error (.error (.localization e)), [], ?_, by simp⟩, .inr ⟨e, rfl⟩, ?_⟩
    · simp [sinkCalls, hs]
    · refine ⟨nofun, fun h => ?_⟩
      cases h.1 _ List.mem_cons_self
  | step hw h =>
    obtain ⟨answer, rfl⟩ := calls_of_writesSink hw
    cases h with
    | stop hp =>
      obtain ⟨e, rfl⟩ := error_of_publishesAll hp
      refine ⟨⟨answer, _, rfl, deliveries_of_publishesAll hp⟩, .inr ⟨e, rfl⟩, ⟨nofun, fun h => ?_⟩⟩
      have hs := fun c hc => h.1 c (List.mem_append_right _ hc)
      obtain ⟨d, ⟨b, hb, f, hf, hd, hn⟩, -⟩ := unpaired_of_publishesAll hp hs
      exact absurd (h.2 b hb f hf d hd) hn
    | step hp hs =>
      cases hs
      refine ⟨⟨answer, _, rfl, ?_⟩, .inl rfl, fun _ => ⟨?_, paired_of_publishesAll hp⟩, fun _ => ⟨_, rfl⟩⟩
      · rw [List.append_nil]
        exact deliveries_of_publishesAll hp
      · exact ho.succeeded

theorem concluded_of_ends {passed : List StageOutput} {halt : Halt} {r : Except Abort String}
    (h : w.Ends plan passed halt r l) : w.Concluded plan passed halt r l := by
  cases h with
  | finished h => exact delivers_of_finishes h
  | failed => exact ⟨rfl, rfl⟩
  | aborted => exact ⟨rfl, rfl⟩

end Wrapper

/-- The stages of a line that could be prepared are run in their order, each of them once, until one of
them does not pass. The first one is given what the file in front of them holds, every other one what the
one before wrote. -/
theorem Wrapper.wrap_dataFlow (w : Wrapper σ) (line : String) (s : Session σ) (plan : Plan)
    (h : (w.prepare line s).1 = .ok plan) :
    ∃ pipeline passed halt localizes reads runs rest,
      ControlLine.parse line = .ok pipeline ∧
      w.trace line s = localizes ++ reads ++ runs ++ rest ∧
      w.Fulfils line s pipeline plan localizes reads ∧
      DataFlow (plan.built.map (·.1)) plan.input passed halt runs ∧
      w.Concluded plan passed halt (w.wrap line s).1 rest := by
  obtain ⟨l, m, ht, hp, ⟨p, hplan, hc⟩ | ⟨a, ha, -⟩⟩ := w.trace_eq_append line s
  · rw [h] at hplan
    cases hplan
    rw [h] at hp
    obtain ⟨localizes, reads, rfl, hprep⟩ := preparation_of_prepares hp
    obtain ⟨passed, halt, runs, rest, rfl, hd, he⟩ := runs_of_carriesOut hc
    cases hprep with
    | fulfilled hparse hf =>
      exact ⟨_, passed, halt, localizes, reads, runs, rest, hparse, by rw [ht, List.append_assoc _ runs], hf,
        hd.dataFlow, concluded_of_ends he⟩
  · rw [h] at ha
    cases ha

/-- A wrapper whose tools are entry points. Only `cat` is there; every file holds the same text. -/
def echoing : Wrapper Unit where
  repository := ⟨fun _ action => pure ⟨action, action, some .inProcess, [], [], []⟩⟩
  storage :=
    { read := fun _ => pure (Text.encode "hi")
      write := fun _ _ => pure ()
      holds := fun _ => pure true
      localize := fun reference _ _ => pure reference
      delocalize := fun _ _ _ => pure () }
  processExecutor := inProcessExecutor fun _ => none
  inProcessExecutor := inProcessExecutor fun name => if name = "cat" then some Builtins.cat else none
  workingDir := "work"
  separator := " "

def Session.blank : Session Unit := ⟨⟨∅, []⟩, [], ()⟩

def ToolStage.cat : ToolStage := ⟨"text:cat", ⟨"cat", "cat", some .inProcess, [], [], []⟩, .empty, "work"⟩

/-- Every tool copies its input files, or else its standard input. Files have other names in the working
directory. -/
def joining : Wrapper Unit := { echoing with
  repository := ⟨fun _ action => pure ⟨action, "cat $\x7bin\x7d", some .inProcess, [⟨"in", false, none⟩],
    [⟨"out", false, none⟩], []⟩⟩
  storage := { echoing.storage with localize := fun reference _ _ => pure ("local/" ++ reference) } }

def Session.supplied : Session Unit :=
  ⟨⟨.ofList [(["work"], .directory), (["work", "local"], .directory), (["work", "local", "a"], .file [72]),
    (["work", "local", "b"], .file [73])], []⟩, [], ()⟩

def joiningLine : String := "in.txt > text join -in=\"a b\" -out=\"x y\" | text join -out=z"

def ToolStage.joiningWith (parameters : Parameters) : ToolStage where
  label := "text:join"
  operation := ⟨"join", "cat $\x7bin\x7d", some .inProcess, [⟨"in", false, none⟩], [⟨"out", false, none⟩], []⟩
  parameters
  workingDir := "work"

/-- The first stage has two input files and two output files, the second one has an output file only. -/
def Plan.joined : Plan where
  built := [(.joiningWith ⟨⟨[("in", "local/a local/b")]⟩, ⟨[("out", "local/x local/y")]⟩, ∅⟩,
      ⟨⟨[("out", "x y")]⟩, ⟨[("out", "local/x local/y")]⟩⟩),
    (.joiningWith ⟨∅, ⟨[("out", "local/z")]⟩, ∅⟩, ⟨⟨[("out", "z")]⟩, ⟨[("out", "local/z")]⟩⟩)]
  source := some ("work/in.txt", Text.encode "hi")
  sink := none

theorem Wrapper.wrap_dataFlow_joining :
    (joining.prepare joiningLine .supplied).1 = .ok .joined ∧
      (joining.wrap joiningLine .supplied).1 = .ok "HI" ∧
      (joining.trace joiningLine .supplied).map Call.request =
        [.localize "a" "work" true, .localize "b" "work" true, .localize "x" "work" false,
          .localize "y" "work" false, .localize "z" "work" false, .read "work/in.txt",
          .run .inProcess "cat local/a local/b" "work" [104, 105], .run .inProcess "cat " "work" [72, 73],
          .delocalize "local/x" "x" "work", .delocalize "local/y" "y" "work", .delocalize "local/z" "z" "work"] ∧
      ∃ pipeline passed halt localizes reads runs rest,
        ControlLine.parse joiningLine = .ok pipeline ∧
        joining.trace joiningLine .supplied = localizes ++ reads ++ runs ++ rest ∧
        joining.Fulfils joiningLine .supplied pipeline .joined localizes reads ∧
        DataFlow (Plan.joined.built.map (·.1)) [104, 105] passed halt runs ∧
        joining.Concluded .joined passed halt (joining.wrap joiningLine .supplied).1 rest := by
  have h : (joining.prepare joiningLine .supplied).1 = .ok .joined := by decide +kernel
  exact ⟨h, by decide +kernel, by decide +kernel, joining.wrap_dataFlow _ _ _ h⟩

end ToolPipeline
