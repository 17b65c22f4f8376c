import ToolPipeline.Proofs.ControlLine.Grammar
import ToolPipeline.Proofs.Partition
import ToolPipeline.Proofs.WrapperCalls

set_option autoImplicit false

/-!
What a control line is prepared to, and the calls that preparing it makes. `Preparation` tells both for every
line: each command in its turn is served or denied, and behind the last one the redirections are looked up.
-/

namespace ToolPipeline

open Made

variable {σ : Type}

namespace Wrapper

variable (w : Wrapper σ)

def LocalizedValue (copy : Bool) (value localized : String) (l : List Call) : Prop :=
  ∃ paths, InTurn (fun reference path l => l = [⟨.localize reference w.workingDir copy, .ok path⟩])
    (Text.fragments w.separator value) paths l ∧ localized = w.separator.intercalate paths

def LocalizedMap (copy : Bool) (m localized : ParameterMap) (l : List Call) : Prop :=
  InTurn (fun e f l => f.1 = e.1 ∧ w.LocalizedValue copy e.2 f.2 l) m.toList localized.toList l

def valueLocalizations (copy : Bool) (value : String) : List Request :=
  (Text.fragments w.separator value).map fun reference => .localize reference w.workingDir copy

def localizations (p : Parameters) : List Request :=
  (p.inputs.toList.flatMap fun e => w.valueLocalizations true e.2) ++
    p.outputs.toList.flatMap fun e => w.valueLocalizations false e.2

variable (x : Session σ × ControlLine.Command)

/-- The operation that a command finds in its turn, and the parameters by the roles that it declares. -/
structure Assigned (operation : Operation) (p : Parameters) : Prop where
  resolved : (w.repository.resolve x.2.tool x.2.action x.1).1 = .ok operation
  valid : operation.validate = .ok ()
  complete : ∀ d ∈ operation.declared, ¬ Parameters.Lacks x.2.pairs d
  partition : ToolStage.Partition operation x.2.pairs p

structure Served (b : ToolStage × PendingOutputs) (p : Parameters) (fetches places : List Call) : Prop where
  assigned : w.Assigned x b.1.operation p
  inputs : w.LocalizedMap true p.inputs b.1.parameters.inputs fetches
  outputs : w.LocalizedMap false p.outputs b.1.parameters.outputs places
  others_eq : b.1.parameters.others = p.others
  pending_eq : b.2 = ⟨p.outputs, b.1.parameters.outputs⟩
  label_eq : b.1.label = x.2.tool ++ ":" ++ x.2.action
  /-- The template of the operation with a value for each placeholder. A file stands there by its local name. -/
  call_eq : ∃ m, Template.Dissects b.1.operation.command.toList m ∧
    (∀ k ∈ m.placeholders, k ∈ b.1.operation.declaredNames) ∧
    ∀ stdin answer, b.1.call stdin answer = ⟨.run (b.1.operation.runtime.getD .process)
      (m.fillWith (b.1.operation.valueWithFiles x.2.pairs b.1.parameters.inputs b.1.parameters.outputs))
      w.workingDir stdin, answer⟩

def Serves (b : ToolStage × PendingOutputs) (l : List Call) : Prop :=
  ∃ p fetches places, l = fetches ++ places ∧ w.Served x b p fetches places

inductive Denies : Abort → List Call → Prop
  | unresolved {e : ResolutionError} : (w.repository.resolve x.2.tool x.2.action x.1).1 = .error e →
      Denies (.error (.resolution e)) []
  | invalid {operation : Operation} {e : OperationError} :
      (w.repository.resolve x.2.tool x.2.action x.1).1 = .ok operation → operation.validate = .error e →
      Denies (.error (.configuration e)) []
  | lacking {operation : Operation} {k : String} :
      (w.repository.resolve x.2.tool x.2.action x.1).1 = .ok operation → operation.validate = .ok () →
      Parameters.FirstLacking operation x.2.pairs k →
      Denies (.error (.configuration (.missingParameter (x.2.tool ++ ":" ++ x.2.action) k))) []
  | unlocalized {operation : Operation} {p : Parameters} {a : Abort} {l : List Call} :
      w.Assigned x operation p → l.map Call.request <+: w.localizations p → BrokenOff l a → Denies a l

inductive Opened : Option String → Option (String × Bytes) → List Call → Prop
  | none : Opened none none []
  | some {file reference : String} {b : Bytes} : Reference.anchor w.workingDir file = .ok reference →
      Opened (some file) (some (reference, b)) [⟨.read reference, .ok b⟩]

inductive Found : Option String → Option (String × String) → Prop
  | none : Found none none
  | some {file reference : String} : Reference.anchor w.workingDir file = .ok reference →
      Found (some file) (some (file, reference))

inductive Unredirected (p : ControlLine.Pipeline) : Abort → List Call → Prop
  | source {file : String} {e : StorageError} : p.stdin = some file → Reference.anchor w.workingDir file = .error e →
      Unredirected p e.abort []
  | unread {file reference : String} {e : StorageError} : p.stdin = some file →
      Reference.anchor w.workingDir file = .ok reference →
      Unredirected p e.abort [⟨.read reference, .error e.abort⟩]
  | sink {file : String} {source : Option (String × Bytes)} {l : List Call} {e : StorageError} :
      w.Opened p.stdin source l → p.stdout = some file → Reference.anchor w.workingDir file = .error e →
      Unredirected p e.abort l

variable (line : String) (s : Session σ)

structure Fulfils (p : ControlLine.Pipeline) (plan : Plan) (localizes reads : List Call) : Prop where
  served : InTurn w.Serves (w.turns line s p) plan.built localizes
  source : w.Opened p.stdin plan.source reads
  sink : w.Found p.stdout plan.sink

/-- What a line is prepared to, with the calls that localize files and the ones that read them. -/
inductive Preparation : Except Abort Plan → List Call → List Call → Prop
  | malformed {e : ControlLine.SyntaxError} : ControlLine.parse line = .error e →
      Preparation (.error (.error (.malformedLine e))) [] []
  | denied {p : ControlLine.Pipeline} {before after built x a} {l m : List Call} :
      ControlLine.parse line = .ok p → w.turns line s p = before ++ x :: after → InTurn w.Serves before built l →
      w.Denies x a m → Preparation (.error a) (l ++ m) []
  | unredirected {p : ControlLine.Pipeline} {built a} {l m : List Call} : ControlLine.parse line = .ok p →
      InTurn w.Serves (w.turns line s p) built l → w.Unredirected p a m → Preparation (.error a) l m
  | fulfilled {p : ControlLine.Pipeline} {plan : Plan} {l m : List Call} : ControlLine.parse line = .ok p →
      w.Fulfils line s p plan l m → Preparation (.ok plan) l m

variable {w x line s} {l : List Call}

theorem localizedValue_of_localizesValue {copy : Bool} {value localized : String}
    (h : w.LocalizesValue copy value (.ok localized) l) : w.LocalizedValue copy value localized l := by
  obtain ⟨paths, l₁, l₂, rfl, hp, hs⟩ := h.of_ok
  cases hs
  rw [List.append_nil]
  exact ⟨paths, hp.inTurn fun _ _ _ _ h => by cases h; rfl, rfl⟩

theorem localizedMap_of_localizesMap {copy : Bool} {m localized : ParameterMap}
    (h : w.LocalizesMap copy m (.ok localized) l) : w.LocalizedMap copy m localized l := by
  obtain ⟨entries, l₁, l₂, rfl, he, hs⟩ := h.of_ok
  cases hs
  rw [List.append_nil]
  refine he.inTurn fun e _ f l h => ?_
  obtain ⟨v, l₁, l₂, rfl, hv, hs⟩ := h.of_ok
  cases hs
  rw [List.append_nil]
  exact ⟨rfl, localizedValue_of_localizesValue hv⟩

theorem LocalizedMap.keys_eq {copy : Bool} {m localized : ParameterMap} (h : w.LocalizedMap copy m localized l) :
    localized.keys = m.keys := by
  unfold LocalizedMap at h
  unfold OrderedMap.keys
  generalize m.toList = es, localized.toList = fs at h
  induction h with
  | nil => rfl
  | cons he _ ih => rw [List.map_cons, List.map_cons, he.1, ih]

theorem assign_snd_of_assign {t : ToolStage} {pairs : ParameterMap} (h : (t.assign pairs).1 = .ok ()) :
    (Parameters.assign t.operation pairs).2 = none := by
  rw [ToolStage.assign_fst_eq] at h
  cases hm : (Parameters.assign t.operation pairs).2 with
  | none => rfl
  | some name => rw [hm] at h; cases h

theorem assigned_of_assign {operation : Operation} (hd : x.2.pairs.Distinct)
    (hr : (w.repository.resolve x.2.tool x.2.action x.1).1 = .ok operation) (hv : operation.validate = .ok ())
    (ha : ((w.bareStage x.2 operation).assign x.2.pairs).1 = .ok ()) :
    w.Assigned x operation ((w.bareStage x.2 operation).assign x.2.pairs).2.parameters :=
  have hn := assign_snd_of_assign ha
  ⟨hr, hv, Parameters.assign_snd_eq_none_iff.1 hn, ToolStage.partition_of_assign hv hd hn⟩

theorem commandLine_of_localized {operation : Operation} {inputs outputs : ParameterMap} {l₁ l₂ : List Call}
    (hd : x.2.pairs.Distinct) (hv : operation.validate = .ok ())
    (hn : (Parameters.assign operation x.2.pairs).2 = none)
    (hi : w.LocalizedMap true (Parameters.assign operation x.2.pairs).1.inputs inputs l₁)
    (ho : w.LocalizedMap false (Parameters.assign operation x.2.pairs).1.outputs outputs l₂) :
    Parameters.commandLine operation ((Parameters.assign operation x.2.pairs).1.withFiles inputs outputs) =
      operation.template.parts.fillWith (operation.valueWithFiles x.2.pairs inputs outputs) :=
  Parameters.commandLine_eq_fillWith hv fun _ hk =>
    Parameters.valueIn?_withFiles hv hd hn (OrderedMap.sameKeys_of_keys_eq hi.keys_eq.symm)
      (OrderedMap.sameKeys_of_keys_eq ho.keys_eq.symm) hk

theorem serves_of_builds {b : ToolStage × PendingOutputs} (hd : x.2.pairs.Distinct) (h : w.Builds x (.ok b) l) :
    w.Serves x b l := by
  obtain ⟨operation, _, _, rfl, hr, h₁⟩ := h.of_ok
  obtain ⟨_, _, _, rfl, hv, h₂⟩ := h₁.of_ok
  obtain ⟨_, _, _, rfl, ha, h₃⟩ := h₂.of_ok
  obtain ⟨inputs, l₁, _, rfl, hi, h₄⟩ := h₃.of_ok
  obtain ⟨outputs, l₂, _, rfl, ho, h₅⟩ := h₄.of_ok
  obtain ⟨rfl, hs⟩ := hr.of_ok
  obtain ⟨hvalid, rfl⟩ := hv.of_ok.eq
  obtain ⟨hassign, rfl⟩ := ha.of_ok.eq
  cases h₅
  have hi := localizedMap_of_localizesMap hi.of_ok
  have ho := localizedMap_of_localizesMap ho.of_ok
  have hcall := commandLine_of_localized hd hvalid.symm (assign_snd_of_assign hassign.symm) hi ho
  refine ⟨((w.bareStage x.2 operation).assign x.2.pairs).2.parameters, l₁, l₂, by simp, ?_⟩
  exact {
    assigned := assigned_of_assign hd hs hvalid.symm hassign.symm
    inputs := hi
    outputs := ho
    others_eq := rfl
    pending_eq := rfl
    label_eq := rfl
    call_eq := ⟨_, Template.dissects_ofChars _, Operation.declared_of_part hvalid.symm, fun stdin answer =>
      congrArg (fun commandLine => Call.mk (.run _ commandLine _ stdin) answer) hcall⟩ }

theorem opened_of_readsSource {file : Option String} {source : Option (String × Bytes)}
    (h : w.ReadsSource file (.ok source) l) : w.Opened file source l := by
  cases file with
  | none =>
    obtain ⟨hs, rfl⟩ := h.eq
    cases hs
    exact .none
  | some file =>
    obtain ⟨reference, _, _, rfl, hr, h₁⟩ := h.of_ok
    obtain ⟨b, _, _, rfl, hb, h₂⟩ := h₁.of_ok
    obtain ⟨ha, rfl⟩ := hr.eq
    cases hb
    cases h₂
    exact .some ha.symm

theorem found_of_findsSink {file : Option String} {sink : Option (String × String)}
    (h : w.FindsSink file (.ok sink) l) : w.Found file sink ∧ l = [] := by
  cases file with
  | none =>
    obtain ⟨hs, rfl⟩ := h.eq
    cases hs
    exact ⟨.none, rfl⟩
  | some file =>
    obtain ⟨reference, _, _, rfl, hr, hs⟩ := h.of_ok
    obtain ⟨ha, rfl⟩ := hr.eq
    cases hs
    exact ⟨.some ha.symm, rfl⟩

theorem unredirected_of_readsSource {p : ControlLine.Pipeline} {e : StorageError}
    (h : w.ReadsSource p.stdin (.error e) l) : w.Unredirected p e.abort l := by
  cases hf : p.stdin with
  | none => rw [hf] at h; cases h
  | some file =>
    rw [hf] at h
    cases h with
    | stop ha =>
      obtain ⟨he, rfl⟩ := ha.eq
      exact .source hf he.symm
    | step ha h =>
      obtain ⟨hr, rfl⟩ := ha.eq
      cases h with
      | stop hb => cases hb; exact .unread hf hr.symm
      | step _ hs => cases hs

theorem unredirected_of_findsSink {p : ControlLine.Pipeline} {source : Option (String × Bytes)} {e : StorageError}
    {m : List Call} (hs : w.Opened p.stdin source l) (h : w.FindsSink p.stdout (.error e) m) :
    w.Unredirected p e.abort (l ++ m) := by
  cases hf : p.stdout with
  | none => rw [hf] at h; cases h
  | some file =>
    rw [hf] at h
    cases h with
    | stop ha =>
      obtain ⟨he, rfl⟩ := ha.eq
      rw [List.append_nil]
      exact .sink hs hf he.symm
    | step _ hn => cases hn

theorem asks_localizesValue {copy : Bool} {value : String} {r : Except StorageError String}
    (h : w.LocalizesValue copy value r l) : Asks (w.valueLocalizations copy value) r l := by
  rw [valueLocalizations, List.map_eq_flatMap, ← List.append_nil (List.flatMap _ _)]
  exact h.asks (fun _ _ hr => hr.asks fun _ _ _ hr => hr.asks) fun _ _ _ hs => hs.asks

theorem asks_localizesMap {copy : Bool} {m : ParameterMap} {r : Except StorageError ParameterMap}
    (h : w.LocalizesMap copy m r l) :
    Asks (m.toList.flatMap fun e => w.valueLocalizations copy e.2) r l := by
  rw [← List.append_nil (List.flatMap _ _)]
  refine h.asks (fun _ _ hm => hm.asks fun e r l he => ?_) fun _ _ _ hs => hs.asks
  rw [← List.append_nil (w.valueLocalizations _ _)]
  exact he.asks (fun _ _ => asks_localizesValue) fun _ _ _ hs => hs.asks

theorem asks_localizes {t : ToolStage} {r : Except Abort (ToolStage × PendingOutputs)}
    (h : w.Localizes t r l) : Asks (w.localizations t.parameters) r l := by
  refine h.asks (fun _ _ hi => hi.asks fun _ _ => asks_localizesMap) fun inputs r l ho => ?_
  rw [← List.append_nil (List.flatMap _ _)]
  exact ho.asks (fun _ _ ho => ho.asks fun _ _ => asks_localizesMap) fun _ _ _ hs => hs.asks

theorem orderly_localizesValue {copy : Bool} {value : String} {r : Except StorageError String}
    (h : w.LocalizesValue copy value r l) : Orderly StorageError.abort r l :=
  h.orderly (fun _ _ hr => hr.orderly fun _ _ _ hr => hr.orderly rfl) fun _ _ _ hs => hs.orderly

theorem orderly_localizesMap {copy : Bool} {m : ParameterMap} {r : Except StorageError ParameterMap}
    (h : w.LocalizesMap copy m r l) : Orderly StorageError.abort r l := by
  refine h.orderly (fun _ _ hm => hm.orderly fun e r l he => ?_) fun _ _ _ hs => hs.orderly
  exact he.orderly (fun _ _ => orderly_localizesValue) fun _ _ _ hs => hs.orderly

theorem orderly_localizes {t : ToolStage} {r : Except Abort (ToolStage × PendingOutputs)}
    (h : w.Localizes t r l) : Orderly id r l := by
  refine h.orderly (fun _ _ hi => hi.orderly fun _ _ => orderly_localizesMap) fun inputs r l ho => ?_
  exact ho.orderly (fun _ _ ho => ho.orderly fun _ _ => orderly_localizesMap) fun _ _ _ hs => hs.orderly

theorem exists_failed_of_localizesMap {copy : Bool} {m : ParameterMap} {e : StorageError}
    (h : w.LocalizesMap copy m (.error e) l) : ∃ c ∈ l, ¬ c.Succeeded := by
  refine h.exists_failed (fun _ _ hm => hm.exists_failed fun _ _ _ hf => ?_) fun _ _ _ hs => by cases hs
  refine hf.exists_failed (fun _ _ hv => ?_) fun _ _ _ hs => by cases hs
  exact hv.exists_failed (fun _ _ hr => hr.exists_failed fun _ _ _ => Asked.exists_failed) fun _ _ _ hs => by cases hs

theorem exists_failed_of_localizes {t : ToolStage} {a : Abort} (h : w.Localizes t (.error a) l) :
    ∃ c ∈ l, ¬ c.Succeeded := by
  refine h.exists_failed (fun _ _ hi => ?_) fun _ _ _ ho =>
    ho.exists_failed (fun _ _ ho => ?_) fun _ _ _ hs => by cases hs
  · obtain ⟨_, -, hi⟩ := hi.of_error
    exact exists_failed_of_localizesMap hi
  · obtain ⟨_, -, ho⟩ := ho.of_error
    exact exists_failed_of_localizesMap ho

theorem denies_of_builds {a : Abort} (hd : x.2.pairs.Distinct) (h : w.Builds x (.error a) l) : w.Denies x a l := by
  cases h with
  | stop hr =>
    obtain ⟨e, rfl, rfl, hresolve⟩ := hr.of_error
    exact .unresolved hresolve
  | @step operation _ _ _ hr h =>
    obtain ⟨rfl, hresolve⟩ := hr.of_ok
    cases h with
    | stop hv =>
      obtain ⟨e, rfl, hs⟩ := hv.of_error
      obtain ⟨hvalid, rfl⟩ := hs.eq
      exact .invalid hresolve hvalid.symm
    | step hv h =>
      obtain ⟨hvalid, rfl⟩ := hv.of_ok.eq
      cases h with
      | stop ha =>
        obtain ⟨e, rfl, hs⟩ := ha.of_error
        obtain ⟨hassign, rfl⟩ := hs.eq
        rw [ToolStage.assign_fst_eq] at hassign
        split at hassign
        · next k hk =>
          cases hassign
          exact .lacking hresolve hvalid.symm (Parameters.firstLacking_of_assign hk)
        · cases hassign
      | step ha h =>
        obtain ⟨hassign, rfl⟩ := ha.of_ok.eq
        exact .unlocalized (assigned_of_assign hd hresolve hvalid.symm hassign.symm) (asks_localizes h).initial
          ((orderly_localizes h).brokenOff (exists_failed_of_localizes h))

theorem preparation_of_prepares {r : Except Abort Plan} (h : w.Prepares line s r l) :
    ∃ localizes reads, l = localizes ++ reads ∧ w.Preparation line s r localizes reads := by
  cases h with
  | stop hp =>
    obtain ⟨hp, rfl⟩ := hp.eq
    cases hl : ControlLine.parse line with
    | error e => rw [hl] at hp; cases hp; exact ⟨[], [], rfl, .malformed hl⟩
    | ok p => rw [hl] at hp; cases hp
  | @step p _ _ _ hp h =>
    obtain ⟨hp, rfl⟩ := hp.eq
    have hl : ControlLine.parse line = .ok p := by
      cases hl : ControlLine.parse line with
      | error e => rw [hl] at hp; cases hp
      | ok q => rw [hl] at hp; cases hp; rfl
    have hd (x) (hx : x ∈ w.turns line s p) : x.2.pairs.Distinct :=
      ControlLine.distinct_of_parse hl _ (Action.mem_of_mem_turns hx)
    cases h with
    | stop hb =>
      obtain ⟨before, x, after, built, l₁, l₂, hx, rfl, hb, hdeny⟩ := hb.of_error
      have hserve := hb.inTurn fun y hy _ _ => serves_of_builds (hd y (by simp [hx, hy]))
      exact ⟨_, [], by simp, .denied hl hx hserve (denies_of_builds (hd x (by simp [hx])) hdeny)⟩
    | @step built _ l₁ m hb h =>
      have hserve := hb.inTurn fun y hy _ _ => serves_of_builds (hd y hy)
      refine ⟨l₁, m, rfl, ?_⟩
      cases h with
      | stop hs =>
        obtain ⟨e, rfl, he⟩ := hs.of_error
        exact .unredirected hl hserve (unredirected_of_readsSource he)
      | step hs h =>
        have hopened := opened_of_readsSource hs.of_ok
        cases h with
        | stop hf =>
          obtain ⟨e, rfl, he⟩ := hf.of_error
          exact .unredirected hl hserve (unredirected_of_findsSink hopened he)
        | step hf hs =>
          obtain ⟨hfound, rfl⟩ := found_of_findsSink hf.of_ok
          cases hs
          rw [List.append_nil, List.append_nil]
          exact .fulfilled hl ⟨hserve, hopened, hfound⟩

theorem LocalizedMap.localizes {copy : Bool} {m localized : ParameterMap} (h : w.LocalizedMap copy m localized l) :
    ∀ c ∈ l, ∃ reference copy, c.request = .localize reference w.workingDir copy :=
  h.forall_mem fun _ _ _ ⟨_, _, hv, _⟩ => hv.forall_mem fun reference _ _ hl c hc => by
    rw [hl, List.mem_singleton] at hc
    exact ⟨reference, copy, by rw [hc]⟩

theorem Serves.localizes {b : ToolStage × PendingOutputs} (h : w.Serves x b l) :
    ∀ c ∈ l, ∃ reference copy, c.request = .localize reference w.workingDir copy := by
  obtain ⟨_, _, _, rfl, h⟩ := h
  exact List.forall_mem_append.2 ⟨h.inputs.localizes, h.outputs.localizes⟩

theorem Denies.localizes {a : Abort} (h : w.Denies x a l) :
    ∀ c ∈ l, ∃ reference copy, c.request = .localize reference w.workingDir copy := by
  cases h with
  | unresolved | invalid | lacking => simp
  | unlocalized _ hl _ =>
    intro c hc
    have hm := hl.subset (List.mem_map_of_mem hc)
    simp only [localizations, valueLocalizations, List.mem_flatMap, List.mem_append, List.mem_map] at hm
    obtain ⟨_, -, reference, -, he⟩ | ⟨_, -, reference, -, he⟩ := hm <;> exact ⟨reference, _, he.symm⟩

theorem Opened.reads {file : Option String} {source : Option (String × Bytes)} (h : w.Opened file source l) :
    l.length ≤ 1 ∧ ∀ c ∈ l, ∃ reference, c.request = .read reference := by
  cases h <;> simp

namespace Preparation

variable {r : Except Abort Plan} {localizes reads : List Call}

theorem localizes_only (h : w.Preparation line s r localizes reads) :
    ∀ c ∈ localizes, ∃ reference copy, c.request = .localize reference w.workingDir copy := by
  cases h with
  | malformed => simp
  | denied _ _ hs hd => exact List.forall_mem_append.2 ⟨hs.forall_mem fun _ _ _ => Serves.localizes, hd.localizes⟩
  | unredirected _ hs _ => exact hs.forall_mem fun _ _ _ => Serves.localizes
  | fulfilled _ hf => exact hf.served.forall_mem fun _ _ _ => Serves.localizes

theorem reads_one (h : w.Preparation line s r localizes reads) :
    reads.length ≤ 1 ∧ ∀ c ∈ reads, ∃ reference, c.request = .read reference := by
  cases h with
  | malformed | denied => simp
  | fulfilled _ hf => exact hf.source.reads
  | unredirected _ _ hu =>
    cases hu with
    | source => simp
    | unread => simp
    | sink ho => exact ho.reads

end Preparation

theorem orderly_builds {r : Except Abort (ToolStage × PendingOutputs)} (h : w.Builds x r l) : Orderly id r l := by
  refine h.orderly (fun _ _ hr => hr.orderly fun r l hr => ?_) fun _ _ _ h => ?_
  · rw [hr.1]
    exact .all (by simp)
  refine Then.orderly h (fun _ _ hv => hv.orderly fun _ _ hv => hv.orderly) fun _ _ _ h => ?_
  refine Then.orderly h (fun _ _ ha => ha.orderly fun _ _ ha => ha.orderly) fun _ _ _ h => ?_
  exact orderly_localizes h

theorem orderly_readsSource {file : Option String} {r : Except StorageError (Option (String × Bytes))}
    (h : w.ReadsSource file r l) : Orderly StorageError.abort r l := by
  cases file with
  | none => exact Silent.orderly h
  | some file =>
    refine Then.orderly h (fun _ _ ha => ha.orderly) fun _ _ _ h => ?_
    exact h.orderly (fun _ _ hb => hb.orderly rfl) fun _ _ _ hs => hs.orderly

theorem orderly_findsSink {file : Option String} {r : Except StorageError (Option (String × String))}
    (h : w.FindsSink file r l) : Orderly StorageError.abort r l := by
  cases file with
  | none => exact Silent.orderly h
  | some file => exact Then.orderly h (fun _ _ ha => ha.orderly) fun _ _ _ hs => hs.orderly

theorem orderly_prepares {r : Except Abort Plan} (h : w.Prepares line s r l) : Orderly id r l := by
  refine h.orderly (fun _ _ hp => hp.orderly) fun _ _ _ h => ?_
  refine h.orderly (fun _ _ hb => hb.orderly fun _ _ _ => orderly_builds) fun _ _ _ h => ?_
  refine h.orderly (fun _ _ hs => hs.orderly fun _ _ => orderly_readsSource) fun _ _ _ h => ?_
  exact h.orderly (fun _ _ hf => hf.orderly fun _ _ => orderly_findsSink) fun _ _ _ hs => hs.orderly

end Wrapper

end ToolPipeline
