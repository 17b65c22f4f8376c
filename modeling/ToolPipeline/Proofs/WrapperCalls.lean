import ToolPipeline.Proofs.Recording

set_option autoImplicit false

/-!
The calls that each part of a wrapper makes, with the answers that go with them. `records_wrap` puts the
parts together.
-/

namespace ToolPipeline

open Made

variable {σ : Type}

/-- Chains of steps as `Chain.runFrom` runs them: each step has a name and is given the output of the one
before, and the error outputs are collected. -/
inductive Piped : List (String × (Bytes → Made Abort StageOutput)) → Bytes → Bytes → Made Abort ChainOutcome
  | nil {stderr data : Bytes} : Piped [] stderr data (.ok ⟨0, data, stderr, none⟩) []
  | abort {name : String} {P : Bytes → Made Abort StageOutput} {steps} {stderr data : Bytes} {a : Abort}
      {l : List Call} : P data (.error a) l → Piped ((name, P) :: steps) stderr data (.error a) l
  | fail {name : String} {P : Bytes → Made Abort StageOutput} {steps} {stderr data : Bytes} {o : StageOutput}
      {l : List Call} : P data (.ok o) l → o.status ≠ 0 →
      Piped ((name, P) :: steps) stderr data (.ok ⟨o.status, o.stdout, stderr ++ o.stderr, some name⟩) l
  | pass {name : String} {P : Bytes → Made Abort StageOutput} {steps} {stderr data : Bytes} {o : StageOutput}
      {r : Except Abort ChainOutcome} {l m : List Call} : P data (.ok o) l → o.status = 0 →
      Piped steps (stderr ++ o.stderr) o.stdout r m → Piped ((name, P) :: steps) stderr data r (l ++ m)

inductive Chained :
    List (Stage (Recorded σ)) → List (Stage σ) → List (String × (Bytes → Made Abort StageOutput)) → Prop
  | nil : Chained [] [] []
  | cons {a : Stage (Recorded σ)} {b : Stage σ} {P : Bytes → Made Abort StageOutput} {as bs steps} :
      a.name = b.name → a.isTool = b.isTool → (∀ o, a.status o = o.status) → (∀ o, b.status o = o.status) →
      (∀ data, Records (a.run data) (b.run data) (P data)) → Chained as bs steps →
      Chained (a :: as) (b :: bs) ((b.name, P) :: steps)

namespace Chained

variable {as cs : List (Stage (Recorded σ))} {bs ds : List (Stage σ)}
  {steps more : List (String × (Bytes → Made Abort StageOutput))}

theorem append (h : Chained as bs steps) (h' : Chained cs ds more) :
    Chained (as ++ cs) (bs ++ ds) (steps ++ more) := by
  induction h with
  | nil => exact h'
  | cons hn ht ha hb hr _ ih => exact .cons hn ht ha hb hr ih

theorem length_eq (h : Chained as bs steps) : as.length = bs.length := by
  induction h with
  | nil => rfl
  | cons _ _ _ _ _ _ ih => simp [ih]

theorem toolCount_eq (h : Chained as bs steps) :
    (as.filter fun a => a.isTool).length = (bs.filter fun b => b.isTool).length := by
  induction h with
  | nil => rfl
  | @cons a b _ _ _ _ _ ht _ _ _ _ ih => cases hb : b.isTool <;> simp [ht, hb, ih]

theorem records_runFrom (h : Chained as bs steps) (total position : Nat) (stderr data : Bytes) :
    Records (Chain.runFrom total position stderr data as) (Chain.runFrom total position stderr data bs)
      (Piped steps stderr data) := by
  induction h generalizing position stderr data with
  | nil =>
    refine Records.mono (P := Silent (.ok ⟨0, data, stderr, none⟩)) ?_ fun r l h => by cases h; exact .nil
    exact (Records.of_report _).silently (.of_pure _)
  | @cons a b P as bs steps hn _ ha hb hr _ ih =>
    unfold Chain.runFrom
    rw [hn]
    refine (Records.of_report _).silently ((Records.bind (R := fun o r l =>
      if o.status ≠ 0 then Silent (.ok ⟨o.status, o.stdout, stderr ++ o.stderr, some b.name⟩) r l
      else Piped steps (stderr ++ o.stderr) o.stdout r l) (hr data) fun o => ?_).mono fun r l h => ?_)
    · dsimp only
      rw [ha, hb]
      by_cases hs : o.status = 0
      · simp only [hs, ne_eq, not_true_eq_false, ↓reduceIte]
        exact (Records.of_report _).silently (ih _ _ _)
      · simp only [hs, ne_eq, not_false_eq_true, ↓reduceIte]
        exact (Records.of_report _).silently (.of_pure _)
    · cases h with
      | stop h => exact .abort h
      | @step o _ _ _ ho h =>
        split at h
        next hs => cases h; rw [List.append_nil]; exact .fail ho hs
        next hs => exact .pass ho (Decidable.not_not.1 hs) h

theorem records_run (h : Chained as bs steps) :
    Records (Chain.run as) (Chain.run bs) (Piped steps [] []) := by
  unfold Chain.run
  rw [h.length_eq, h.toolCount_eq]
  exact (Records.of_report _).silently (h.records_runFrom _ _ _ _)

end Chained

def ToolStage.call (t : ToolStage) (stdin : Bytes) (answer : Except Abort StageOutput) : Call :=
  ⟨.run t.operation.effectiveRuntime t.commandLine t.workingDir stdin, answer⟩

namespace Wrapper

variable (w : Wrapper σ)

def LocalizesValue (copy : Bool) (value : String) : Made StorageError String :=
  Then
    (Each (fun reference => Asked (.localize reference w.workingDir copy)) (Text.fragments w.separator value))
    fun paths => Silent (.ok (w.separator.intercalate paths))

def LocalizesMap (copy : Bool) (m : ParameterMap) : Made StorageError ParameterMap :=
  Then (Each (fun e => Then (w.LocalizesValue copy e.2) fun v => Silent (.ok (e.1, v))) m.toList)
    fun l => Silent (.ok ⟨l⟩)

/-- Looking up the operation of a command, in the session that a run has reached. -/
def Resolves (x : Session σ × ControlLine.Command) : Made ResolutionError Operation := fun r l =>
  l = [] ∧ (w.repository.resolve x.2.tool x.2.action x.1).1 = r

def Localizes (t : ToolStage) : Made Abort (ToolStage × PendingOutputs) :=
  Then (Renamed StorageError.abort (w.LocalizesMap true t.parameters.inputs)) fun inputs =>
  Then (Renamed StorageError.abort (w.LocalizesMap false t.parameters.outputs)) fun outputs =>
  Silent (.ok ({ t with parameters := { t.parameters with inputs, outputs } }, ⟨t.parameters.outputs, outputs⟩))

def bareStage (c : ControlLine.Command) (o : Operation) : ToolStage :=
  { ToolStage.ofOperation c.tool c.action o with workingDir := w.workingDir }

def Builds (x : Session σ × ControlLine.Command) : Made Abort (ToolStage × PendingOutputs) :=
  Then (Renamed (fun e => .error (.resolution e)) (w.Resolves x)) fun operation =>
  Then (Renamed (fun e => .error (.configuration e)) (Silent operation.validate)) fun _ =>
  Then (Renamed (fun e => .error (.configuration e)) (Silent ((w.bareStage x.2 operation).assign x.2.pairs).1)) fun _ =>
  w.Localizes ((w.bareStage x.2 operation).assign x.2.pairs).2

def ReadsSource : Option String → Made StorageError (Option (String × Bytes))
  | none => Silent (.ok none)
  | some file =>
    Then (Silent (Reference.anchor w.workingDir file)) fun reference =>
    Then (Asked (.read reference)) fun b =>
    Silent (.ok (some (reference, b)))

def FindsSink : Option String → Made StorageError (Option (String × String))
  | none => Silent (.ok none)
  | some file =>
    Then (Silent (Reference.anchor w.workingDir file)) fun reference => Silent (.ok (some (file, reference)))

/-- The commands of a line, each with the session in which its stage is built. -/
def turns (line : String) (s : Session σ) (p : ControlLine.Pipeline) : List (Session σ × ControlLine.Command) :=
  Action.turns w.buildStage (readLine line s).2 p.commands

def Prepares (line : String) (s : Session σ) : Made Abort Plan :=
  Then (Silent ((ControlLine.parse line).mapError fun e => .error (.malformedLine e))) fun p =>
  Then (Each w.Builds (w.turns line s p)) fun built =>
  Then (Renamed StorageError.abort (w.ReadsSource p.stdin)) fun source =>
  Then (Renamed StorageError.abort (w.FindsSink p.stdout)) fun sink =>
  Silent (.ok ⟨built, source, sink⟩)

def RunsTool (t : ToolStage) (stdin : Bytes) : Made Abort StageOutput := One (t.call stdin)

def WritesSink : Option (String × String) → Bytes → Made Abort StageOutput
  | none, data => Silent (.ok (.success data))
  | some (_, reference), data =>
    Then (Renamed StorageError.abort (Asked (.write reference data))) fun _ =>
    Silent (.ok (.success data))

def steps (p : Plan) : List (String × (Bytes → Made Abort StageOutput)) :=
  (p.source.map fun f => ("stdin:" ++ f.1, fun _ => Silent (.ok (.success f.2)))).toList ++
    p.built.map (fun b => (b.1.label, RunsTool b.1)) ++
    [((w.sinkStage p.sink).name, WritesSink p.sink)]

def PublishesValue (localized declared : String) : Made StorageError Unit :=
  if (Text.fragments w.separator localized).length ≠ (Text.fragments w.separator declared).length then
    Silent (.error (.invalidReference declared))
  else
    All (fun f => Asked (.delocalize f.1 f.2 w.workingDir))
      ((Text.fragments w.separator localized).zip (Text.fragments w.separator declared))

def Publishes (p : PendingOutputs) : Made StorageError Unit :=
  All (fun e => match p.declared.get? e.1 with
    | some declared => w.PublishesValue e.2 declared
    | none => Silent (.ok ())) p.localized.toList

def Concludes (p : Plan) (outcome : ChainOutcome) : Made Abort String :=
  if outcome.status ≠ 0 then Silent (.error (.error (.execution outcome.status outcome.text)))
  else
    Then (All (fun b => Renamed StorageError.abort (w.Publishes b.2)) p.built) fun _ =>
    Silent (.ok ((p.sink.map (·.1)).getD (Text.decodeLossy outcome.stdout)))

def CarriesOut (p : Plan) : Made Abort String := Then (Piped (w.steps p) [] []) (w.Concludes p)

theorem records_localize (reference dir : String) (copy : Bool) :
    Records (w.recorded.storage.localize reference dir copy) (w.storage.localize reference dir copy)
      (Asked (.localize reference dir copy)) :=
  Records.asked (.localize reference dir copy) (w.storage.localize reference dir copy)

theorem records_localizeAll (copy : Bool) (value : String) :
    Records (w.recorded.storage.localizeAll w.separator w.workingDir copy value)
      (w.storage.localizeAll w.separator w.workingDir copy value) (w.LocalizesValue copy value) := by
  unfold Storage.localizeAll LocalizesValue
  exact (Records.mapM (fun _ => w.records_localize _ _ _) _).bind fun _ => .of_pure _

theorem records_localizeMap (copy : Bool) (m : ParameterMap) :
    Records (w.recorded.localizeMap copy m) (w.localizeMap copy m) (w.LocalizesMap copy m) := by
  unfold localizeMap LocalizesMap
  refine (Records.mapM (fun e => ?_) _).bind fun _ => .of_pure _
  exact (w.records_localizeAll copy e.2).bind fun _ => .of_pure _

theorem records_assign (t : ToolStage) (pairs : ParameterMap) :
    Records (σ := σ) (t.assignReporting pairs).1 (t.assignReporting pairs).1 (Silent (t.assign pairs).1) := by
  exact (Records.of_reports (t.assignmentEvents pairs)).silently (.of_except (t.assign pairs).1)

theorem executorFor_recorded (r : Runtime) : w.recorded.executorFor r = (w.executorFor r).recorded r := by
  cases r <;> rfl

theorem records_buildStage (s : Session σ) (c : ControlLine.Command) :
    RecordsIn s (w.recorded.buildStage c) (w.buildStage c) (w.Builds (s, c)) := by
  unfold buildStage Builds Localizes
  refine (RecordsIn.mapError _ (.unrecorded s (w.repository.resolve c.tool c.action))).bind fun o t _ => ?_
  -- Only the operation depends on the session.
  suffices h : Records _ _ _ from h t
  refine (Records.mapError _ (.of_except _)).bind fun _ => ?_
  refine (Records.mapError _ (records_assign _ _)).bind fun _ => ?_
  refine (Records.mapError _ (w.records_localizeMap true _)).bind fun inputs => ?_
  refine (Records.mapError _ (w.records_localizeMap false _)).bind fun outputs => ?_
  refine .silently ?_ (.of_pure _)
  rw [executorFor_recorded]
  exact .of_report _

theorem records_readLine (line : String) :
    Records (readLine line) (readLine line) (σ := σ)
      (Silent ((ControlLine.parse line).mapError fun e => .error (.malformedLine e))) := by
  unfold readLine
  cases ControlLine.parse line with
  | error e => exact (Records.of_report _).silently (.of_throw _)
  | ok p => exact (Records.of_report _).silently (.of_pure _)

theorem records_readSource (file : Option String) :
    Records (w.recorded.readSource file) (w.readSource file) (w.ReadsSource file) := by
  cases file with
  | none => exact .of_pure _
  | some file =>
    refine (Records.of_except (Reference.anchor w.workingDir file)).bind fun reference => ?_
    exact (Records.asked (.read reference) (w.storage.read reference)).bind fun _ => .of_pure _

theorem records_findSink (file : Option String) :
    Records (w.recorded.findSink file) (w.findSink file) (w.FindsSink file) := by
  cases file with
  | none => exact .of_pure _
  | some file => exact (Records.of_except (Reference.anchor w.workingDir file)).bind fun _ => .of_pure _

theorem records_prepare (line : String) (s : Session σ) :
    RecordsIn s (w.recorded.prepare line) (w.prepare line) (w.Prepares line s) := by
  unfold prepare Prepares turns
  refine (records_readLine line s).bind fun p t ht => ?_
  rw [ht]
  refine (RecordsIn.mapM w.records_buildStage t p.commands).bind fun built u _ => ?_
  suffices h : Records _ _ _ from h u
  refine (Records.mapError _ (w.records_readSource _)).bind fun source => ?_
  refine (Records.mapError _ (w.records_findSink _)).bind fun sink => ?_
  exact .of_pure _

theorem chained_tool (t : ToolStage) :
    Chained [w.recorded.toolStage t] [w.toolStage t] [(t.label, RunsTool t)] := by
  refine .cons rfl rfl (fun _ => rfl) (fun _ => rfl) (fun data => ?_) .nil
  refine (Records.of_report _).silently ?_
  rw [executorFor_recorded]
  exact Records.recorded ((w.executorFor t.operation.effectiveRuntime).run t.commandLine t.workingDir data) _

theorem chained_tools (built : List (ToolStage × PendingOutputs)) :
    Chained (built.map fun b => w.recorded.toolStage b.1) (built.map fun b => w.toolStage b.1)
      (built.map fun b => (b.1.label, RunsTool b.1)) := by
  induction built with
  | nil => exact .nil
  | cons b built ih => exact (w.chained_tool b.1).append ih

theorem chained_source (source : Option (String × Bytes)) :
    Chained (sourceStages source) (sourceStages source) (σ := σ)
      (source.map fun f => ("stdin:" ++ f.1, fun _ => Silent (.ok (.success f.2)))).toList := by
  cases source with
  | none => exact .nil
  | some f => exact .cons rfl rfl (fun _ => rfl) (fun _ => rfl) (fun _ => .of_pure _) .nil

theorem chained_sink (sink : Option (String × String)) :
    Chained [w.recorded.sinkStage sink] [w.sinkStage sink] [((w.sinkStage sink).name, WritesSink sink)] := by
  cases sink with
  | none => exact .cons rfl rfl (fun _ => rfl) (fun _ => rfl) (fun _ => .of_pure _) .nil
  | some f =>
    refine .cons rfl rfl (fun _ => rfl) (fun _ => rfl) (fun data => ?_) .nil
    exact (Records.mapError _ (Records.asked (.write f.2 data) (w.storage.write f.2 data))).bind
      fun _ => .of_pure _

theorem records_publishValue (localized declared : String) :
    Records (w.recorded.storage.delocalizeAll w.separator w.workingDir localized declared)
      (w.storage.delocalizeAll w.separator w.workingDir localized declared)
      (w.PublishesValue localized declared) := by
  unfold Storage.delocalizeAll PublishesValue
  by_cases h : (Text.fragments w.separator localized).length = (Text.fragments w.separator declared).length
  · simp only [h, ne_eq, not_true_eq_false, ↓reduceIte]
    refine Records.forM (fun f => ?_) _
    exact Records.asked (.delocalize f.1 f.2 w.workingDir) (w.storage.delocalize f.1 f.2 w.workingDir)
  · simp only [h, ne_eq, not_false_eq_true, ↓reduceIte]
    exact .of_throw _

theorem records_publish (p : PendingOutputs) :
    Records (w.recorded.publish p) (w.publish p) (w.Publishes p) := by
  refine Records.forM (fun e => ?_) _
  cases p.declared.get? e.1 with
  | none => exact .of_pure _
  | some declared => exact w.records_publishValue e.2 declared

theorem records_carryOut (p : Plan) : Records (w.recorded.carryOut p) (w.carryOut p) (w.CarriesOut p) := by
  have h := ((chained_source p.source).append (w.chained_tools p.built)).append (w.chained_sink p.sink)
  refine h.records_run.bind fun outcome => ?_
  unfold Concludes ChainOutcome.succeeded
  by_cases hs : outcome.status = 0
  · simp only [hs, BEq.rfl, Bool.not_true, Bool.false_eq_true, ne_eq, not_true_eq_false, ↓reduceIte]
    exact (Records.forM (fun b : ToolStage × PendingOutputs => .mapError _ (w.records_publish b.2)) _).bind
      fun _ => .of_pure _
  · simp only [hs, Bool.not_eq_eq_eq_not, Bool.not_true, beq_eq_false_iff_ne, ne_eq,
      not_false_eq_true, ↓reduceIte]
    exact (Records.of_report _).silently (.of_throw _)

theorem records_wrap (line : String) (s : Session σ) :
    RecordsIn s (w.recorded.wrap line) (w.wrap line) (Then (w.Prepares line s) w.CarriesOut) :=
  (w.records_prepare line s).bind fun plan t _ => w.records_carryOut plan t

/-- Writing the calls down changes nothing else. -/
theorem recorded_wrap (line : String) (s : Session σ) :
    w.recorded.wrap line (s.recorded []) = ((w.wrap line s).1, (w.wrap line s).2.recorded (w.trace line s)) := by
  obtain ⟨l, h, -⟩ := w.records_wrap line s []
  rw [trace, h]
  rfl

/-- The calls of a run are those of preparing its line and those of carrying out the plan. -/
theorem trace_eq_append (line : String) (s : Session σ) :
    ∃ l m, w.trace line s = l ++ m ∧ w.Prepares line s (w.prepare line s).1 l ∧
      ((∃ plan, (w.prepare line s).1 = .ok plan ∧ w.CarriesOut plan (w.wrap line s).1 m) ∨
        ∃ a, (w.prepare line s).1 = .error a ∧ (w.wrap line s).1 = .error a ∧ m = []) := by
  obtain ⟨l, hp, hl⟩ := w.records_prepare line s []
  unfold trace wrap
  rw [Action.bind_apply, Action.bind_apply, hp]
  generalize w.prepare line s = p at hl ⊢
  rcases p with ⟨a | plan, t⟩
  · exact ⟨l, [], by rw [List.append_nil]; rfl, hl, .inr ⟨a, rfl, rfl, rfl⟩⟩
  · obtain ⟨m, hc, hm⟩ := w.records_carryOut plan t l
    refine ⟨l, m, ?_, hl, .inl ⟨plan, rfl, hm⟩⟩
    change (w.recorded.carryOut plan (t.recorded l)).2.state.calls = _
    rw [hc]
    rfl

end Wrapper

end ToolPipeline
