import ToolPipeline.Proofs.Assignment
import ToolPipeline.Proofs.Preparing
import ToolPipeline.Proofs.Tool.Directory
import ToolPipeline.Wrapper

set_option autoImplicit false

/-!
Building the stages of operations without file parameters. No file is asked for and none changes, so what is
built depends on what the repository answers alone.
-/

namespace ToolPipeline

variable {σ ε α β : Type}

theorem Action.bind_eq_ok {a : Action σ ε α} {f : α → Action σ ε β} {s u : Session σ} {y : β}
    (h : (a >>= f) s = (.ok y, u)) : ∃ x t, a s = (.ok x, t) ∧ f x t = (.ok y, u) := by
  rw [bind_apply] at h
  rcases ha : a s with ⟨_ | x, t⟩
  · rw [ha] at h
    cases h
  · rw [ha] at h
    exact ⟨x, t, rfl, h⟩

theorem Action.bind_of_eq_ok {a : Action σ ε α} {s t : Session σ} {x : α} (h : a s = (.ok x, t))
    (f : α → Action σ ε β) : (a >>= f) s = f x t := by
  rw [bind_apply, h]

theorem Action.mapError_eq_ok {δ : Type} {rename : δ → ε} {a : Action σ δ α} {s t : Session σ} {x : α} :
    mapError rename a s = (.ok x, t) ↔ a s = (.ok x, t) := by
  rw [mapError_apply]
  rcases a s with ⟨_ | _, _⟩ <;> constructor <;> intro h <;> cases h <;> rfl

theorem Action.eq_of_outcome {r r' : Except ε α} {s t : Session σ}
    (h : (ExceptT.mk (pure r) : Action σ ε α) s = (r', t)) : r = r' :=
  congrArg Prod.fst h

theorem Action.reports_apply (l : List Event) (s : Session σ) :
    (l.forM report : Action σ ε Unit) s = (.ok (), ⟨s.files, s.events ++ l, s.state⟩) := by
  induction l generalizing s with
  | nil => rw [List.append_nil]; rfl
  | cons e l ih =>
    change (report e >>= fun _ => l.forM report) s = _
    rw [bind_of_eq_ok (rfl : report e s = (.ok (), ⟨s.files, s.events ++ [e], s.state⟩)), ih]
    simp

/-- Looking up an operation is a function of the files and of the state. No file changes, and nothing is
reported. -/
def Repository.LooksUp (r : Repository σ)
    (look : FileTree → σ → String → String → Except ResolutionError Operation × σ) : Prop :=
  ∀ tool action s, r.resolve tool action s =
    ((look s.files s.state tool action).1, { s with state := (look s.files s.state tool action).2 })

theorem Catalog.looksUp (c : Catalog) :
    (c.repository : Repository σ).LooksUp fun _ state tool action => (c.resolve tool action, state) :=
  fun _ _ _ => rfl

theorem ToolDirectory.looksUp (d : ToolDirectory) : d.repository.LooksUp fun files known tool action =>
    ((d.load files known tool).1.bind fun t => Catalog.operationOf t tool action, (d.load files known tool).2) :=
  d.resolve_apply

structure Operation.Plain (o : Operation) : Prop where
  inputs_eq : o.inputs = []
  outputs_eq : o.outputs = []

namespace Parameters

variable {o : Operation} {pairs : ParameterMap}

theorem role_of_plain (h : o.Plain) {d : ParameterSpec × ParameterRole} (hd : d ∈ o.declared) : d.2 = .other := by
  simp only [Operation.declared, h.inputs_eq, h.outputs_eq, List.map_nil, List.nil_append, List.mem_map] at hd
  obtain ⟨_, -, rfl⟩ := hd
  rfl

theorem slot_of_plain (h : o.Plain) (ha : (assign o pairs).2 = none) (role : ParameterRole) (hr : role ≠ .other) :
    (assign o pairs).1.slot role = ∅ := by
  have hg : givenAs o pairs role = [] := by
    refine List.filter_eq_nil_iff.2 fun e _ => ?_
    unfold Operation.roleOf?
    cases hf : o.declared.find? fun d => d.1.name == e.1 with
    | none => simpa using Ne.symm hr
    | some d => simpa [role_of_plain h (List.mem_of_find?_eq_some hf)] using Ne.symm hr
  have hd : defaultsAs pairs o.declared role = [] := by
    refine List.filterMap_eq_nil_iff.2 fun d hd => ?_
    have hother : ¬ (d.2 = role ∧ pairs.contains d.1.name = false) := by
      rintro ⟨rfl, -⟩
      exact hr (role_of_plain h hd)
    rw [if_neg hother]
  rw [slot_assign ha, hg, hd]
  rfl

theorem exists_assign_eq (h : o.Plain) (ha : (assign o pairs).2 = none) :
    ∃ others, (assign o pairs).1 = ⟨∅, ∅, others⟩ := by
  have hi := slot_of_plain h ha .inputFile (by decide)
  have ho := slot_of_plain h ha .outputFile (by decide)
  generalize (assign o pairs).1 = p at hi ho
  obtain ⟨inputs, outputs, others⟩ := p
  obtain rfl : inputs = ∅ := hi
  obtain rfl : outputs = ∅ := ho
  exact ⟨others, rfl⟩

end Parameters

/-- The sessions differ in what was reported only. -/
structure Session.Alike (s t : Session σ) : Prop where
  files_eq : s.files = t.files
  state_eq : s.state = t.state

namespace Wrapper

variable {w : Wrapper σ} {c : ControlLine.Command} {o : Operation} {s t u : Session σ}
  {b : ToolStage × PendingOutputs}

def plainStage (w : Wrapper σ) (c : ControlLine.Command) (o : Operation) : ToolStage :=
  ⟨c.tool ++ ":" ++ c.action, o, (Parameters.assign o c.pairs).1, w.workingDir⟩

def noOutputs : PendingOutputs := ⟨∅, ∅⟩

theorem localizeMap_empty (w : Wrapper σ) (copy : Bool) (s : Session σ) :
    localizing (w.localizeMap copy ∅) s = (.ok ∅, s) := rfl

theorem buildStage_of_plain (ho : o.Plain) (hr : w.repository.resolve c.tool c.action s = (.ok o, u))
    (hv : o.validate = .ok ()) (ha : (Parameters.assign o c.pairs).2 = none) :
    ∃ t, w.buildStage c s = (.ok (w.plainStage c o, noOutputs), t) ∧ t.files = u.files ∧ t.state = u.state := by
  obtain ⟨others, hp⟩ := Parameters.exists_assign_eq ho ha
  have hresolved : resolving (w.repository.resolve c.tool c.action) s = (.ok o, u) := Action.mapError_eq_ok.2 hr
  have hvalid : configuring (ExceptT.mk (pure (.ok ()))) u = (.ok (), u) := rfl
  have hassigned (l : List Event) : configuring (do
      l.forM Action.report
      ExceptT.mk (pure (.ok ()))) u = (.ok (), ⟨u.files, u.events ++ l, u.state⟩) :=
    Action.mapError_eq_ok.2 (by rw [Action.bind_of_eq_ok (Action.reports_apply l u)]; rfl)
  unfold buildStage plainStage
  rw [Action.bind_of_eq_ok hresolved]
  dsimp only [ToolStage.assignReporting, ToolStage.assign, ToolStage.ofOperation]
  rw [hv, ha, hp, Action.bind_of_eq_ok hvalid, Action.bind_of_eq_ok (hassigned _),
    Action.bind_of_eq_ok (w.localizeMap_empty true _), Action.bind_of_eq_ok (w.localizeMap_empty false _)]
  exact ⟨_, rfl, rfl, rfl⟩

theorem exists_of_buildStage (h : w.buildStage c s = (.ok b, t)) :
    ∃ u, w.repository.resolve c.tool c.action s = (.ok b.1.operation, u) ∧ b.1.operation.validate = .ok () ∧
      (Parameters.assign b.1.operation c.pairs).2 = none := by
  obtain ⟨o, u, hr, h⟩ := Action.bind_eq_ok h
  obtain ⟨_, v, hv, h⟩ := Action.bind_eq_ok h
  have hvalid := Action.eq_of_outcome (Action.mapError_eq_ok.1 hv)
  obtain ⟨_, _, ha, h⟩ := Action.bind_eq_ok h
  obtain ⟨_, _, -, ha⟩ := Action.bind_eq_ok (Action.mapError_eq_ok.1 ha)
  have hassign := assign_snd_of_assign (congrArg Prod.fst ha)
  obtain ⟨_, _, -, h⟩ := Action.bind_eq_ok h
  obtain ⟨_, _, -, h⟩ := Action.bind_eq_ok h
  obtain ⟨_, _, -, h⟩ := Action.bind_eq_ok h
  obtain rfl : o = b.1.operation := by cases h; rfl
  exact ⟨u, Action.mapError_eq_ok.1 hr, hvalid, hassign⟩

variable {look : FileTree → σ → String → String → Except ResolutionError Operation × σ} {s' u' : Session σ}

theorem buildStage_again (h : w.buildStage c s = (.ok b, t)) (hp : b.1.operation.Plain)
    (hr : w.repository.resolve c.tool c.action s' = (.ok b.1.operation, u')) :
    b.2 = noOutputs ∧ ∃ t', w.buildStage c s' = (.ok b, t') ∧ t'.files = u'.files ∧ t'.state = u'.state := by
  obtain ⟨u, hu, hv, ha⟩ := exists_of_buildStage h
  obtain ⟨_, hb, -⟩ := buildStage_of_plain hp hu hv ha
  have hbuilt := Except.ok.inj (congrArg Prod.fst (h.symm.trans hb))
  obtain ⟨t', hb', ht'⟩ := buildStage_of_plain hp hr hv ha
  rw [← hbuilt] at hb'
  exact ⟨congrArg Prod.snd hbuilt, t', hb', ht'⟩

/-- From two sessions that differ in what was reported only, the same stage is built. -/
theorem buildStage_alike (hl : w.repository.LooksUp look) (h : w.buildStage c s = (.ok b, t))
    (hp : b.1.operation.Plain) (hs : s'.Alike s) :
    b.2 = noOutputs ∧ t.files = s.files ∧ ∃ t', w.buildStage c s' = (.ok b, t') ∧ t'.Alike t := by
  obtain ⟨u, hr, -⟩ := exists_of_buildStage h
  obtain ⟨hn, t₁, hb, hfiles, hstate⟩ := buildStage_again h hp hr
  obtain rfl := congrArg Prod.snd (h.symm.trans hb)
  -- The repository sees the files and the state, which are the same in both sessions.
  have hr' := hl c.tool c.action s'
  rw [hs.files_eq, hs.state_eq] at hr'
  rw [hl] at hr
  obtain ⟨ho, rfl⟩ := Prod.mk.inj hr
  rw [ho] at hr'
  obtain ⟨-, t', hb', hfiles', hstate'⟩ := buildStage_again h hp hr'
  exact ⟨hn, hfiles, t', hb', hfiles'.trans hfiles.symm, hstate'.trans hstate.symm⟩

theorem mapM_buildStage_alike (hl : w.repository.LooksUp look) {cs : List ControlLine.Command}
    {built : List (ToolStage × PendingOutputs)} (h : cs.mapM w.buildStage s = (.ok built, t))
    (hp : ∀ b ∈ built, b.1.operation.Plain) (hs : s'.Alike s) :
    (∀ b ∈ built, b.2 = noOutputs) ∧ t.files = s.files ∧
      ∃ t', cs.mapM w.buildStage s' = (.ok built, t') ∧ t'.Alike t := by
  induction cs generalizing s s' built with
  | nil =>
    cases h
    exact ⟨fun _ h => absurd h List.not_mem_nil, rfl, s', rfl, hs⟩
  | cons c cs ih =>
    rw [List.mapM_cons] at h ⊢
    obtain ⟨b, u, hb, h⟩ := Action.bind_eq_ok h
    obtain ⟨rest, v, hrest, h⟩ := Action.bind_eq_ok h
    cases h
    obtain ⟨hpb, hprest⟩ := List.forall_mem_cons.1 hp
    -- The sessions are alike again behind the first command, so the induction follows both runs at once.
    obtain ⟨hn, hu, u', hb', hu'⟩ := buildStage_alike hl hb hpb hs
    obtain ⟨hns, hv, v', hrest', hv'⟩ := ih hrest hprest hu'
    refine ⟨List.forall_mem_cons.2 ⟨hn, hns⟩, hv.trans hu, v', ?_, hv'⟩
    rw [Action.bind_of_eq_ok hb', Action.bind_of_eq_ok hrest']
    rfl

theorem mapM_buildStage_of_catalog {catalog : Catalog} (hw : w.repository = catalog.repository)
    {cs : List ControlLine.Command} {built : List (ToolStage × PendingOutputs)}
    (h : cs.mapM w.buildStage s = (.ok built, t)) (hp : ∀ b ∈ built, b.1.operation.Plain) (s' : Session σ) :
    (cs.mapM w.buildStage s').1 = .ok built := by
  induction cs generalizing s s' built with
  | nil =>
    cases h
    rfl
  | cons c cs ih =>
    rw [List.mapM_cons] at h ⊢
    obtain ⟨b, u, hb, h⟩ := Action.bind_eq_ok h
    obtain ⟨rest, v, hrest, h⟩ := Action.bind_eq_ok h
    cases h
    obtain ⟨hpb, hprest⟩ := List.forall_mem_cons.1 hp
    obtain ⟨_, hr, -⟩ := exists_of_buildStage hb
    rw [hw] at hr
    -- The sessions may have nothing in common, but a catalog does not look at them.
    have ho : catalog.resolve c.tool c.action = .ok b.1.operation := congrArg Prod.fst hr
    have hr' : w.repository.resolve c.tool c.action s' = (.ok b.1.operation, s') := by
      rw [hw]
      exact Prod.ext ho rfl
    obtain ⟨-, u', hb', -⟩ := buildStage_again hb hpb hr'
    have hrest' := ih hrest hprest u'
    rw [Action.bind_of_eq_ok hb', Action.bind_of_eq_ok (Prod.ext hrest' rfl)]
    rfl

end Wrapper

end ToolPipeline
