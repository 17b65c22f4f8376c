import ToolPipeline.Proofs.Assignment
import ToolPipeline.Proofs.Template
import ToolPipeline.Stage.Tool

set_option autoImplicit false

/-!
The command lines of stages whose operation is valid. The placeholders of the template are declared, and a
declared name always has a value, so that none of them is left: `commandLine_eq_fillWith`.
-/

namespace ToolPipeline

open Template

variable {o : Operation} {pairs ins outs : ParameterMap} {p : Parameters} {role : ParameterRole} {k : String}

namespace Operation

def valueOf (o : Operation) (pairs : ParameterMap) (k : String) : String :=
  ((pairs.get? k).or (o.default? k)).getD ""

def valueWithFiles (o : Operation) (pairs ins outs : ParameterMap) (k : String) : String :=
  match o.roleOf? k with
  | some .inputFile => (ins.get? k).getD ""
  | some .outputFile => (outs.get? k).getD ""
  | _ => o.valueOf pairs k

theorem valueOf_congr {pairs' : ParameterMap} (h : pairs'.get? k = pairs.get? k) :
    o.valueOf pairs' k = o.valueOf pairs k := by
  rw [valueOf, valueOf, h]

theorem declared_of_placeholder (hv : o.validate = .ok ()) : ∀ k ∈ o.template.placeholders, k ∈ o.declaredNames :=
  (validate_eq_ok_iff.1 hv).2.2

theorem declared_of_part (hv : o.validate = .ok ()) : ∀ k ∈ o.template.parts.placeholders, k ∈ o.declaredNames := by
  rw [← placeholders_eq_parts]
  exact declared_of_placeholder hv

end Operation

namespace Parameters

def withFiles (p : Parameters) (ins outs : ParameterMap) : Parameters := { p with inputs := ins, outputs := outs }

theorem valueIn?_layers : valueIn? p.layers k =
    ((p.slot .inputFile).get? k).or (((p.slot .outputFile).get? k).or ((p.slot .other).get? k)) := by
  simp only [valueIn?, layers, slot, List.findSome?_cons, List.findSome?_nil]
  cases p.inputs.get? k <;> cases p.outputs.get? k <;> cases p.others.get? k <;> rfl

theorem valueIn?_layers_of_role (h : ∀ r, role ≠ r → (p.slot r).get? k = none) :
    valueIn? p.layers k = (p.slot role).get? k := by
  rw [valueIn?_layers]
  cases role with
  | inputFile => simp [h .outputFile, h .other]
  | outputFile => simp [h .inputFile, h .other]
  | other => simp [h .inputFile, h .outputFile]

theorem lookup_map_empty (l : List String) (k : String) :
    (l.map fun n => (n, "")).lookup k = if k ∈ l then some "" else none := by
  induction l with
  | nil => rfl
  | cons n l ih =>
    rw [List.map_cons, List.lookup_cons, ih]
    by_cases h : k = n
    · simp [h]
    · have hb : (k == n) = false := by simpa using h
      simp [h, hb]

theorem get?_unset (hk : k ∈ o.declaredNames) (h : valueIn? p.layers k = none) : (unset o p).get? k = some "" := by
  rw [unset, OrderedMap.get?_ofList, ← List.map_reverse, lookup_map_empty, if_pos]
  rw [List.mem_reverse, List.mem_filter]
  refine ⟨hk, ?_⟩
  rw [valueIn?, List.findSome?_eq_none_iff] at h
  simp only [Bool.not_eq_true', List.any_eq_false, OrderedMap.contains_eq_isSome_get?, Option.not_isSome_iff_eq_none]
  exact h

theorem valueIn?_of_declared (hk : k ∈ o.declaredNames) :
    valueIn? (p.layers ++ [unset o p]) k = some ((valueIn? p.layers k).getD "") := by
  rw [valueIn?, List.findSome?_append, ← valueIn?]
  cases h : valueIn? p.layers k with
  | some v => rfl
  | none => simp [get?_unset hk h]

/-- The command line of a valid operation puts a value in the place of every placeholder. -/
theorem commandLine_eq_fillWith {value : String → String} (hv : o.validate = .ok ())
    (h : ∀ k ∈ o.declaredNames, (valueIn? p.layers k).getD "" = value k) :
    commandLine o p = o.template.parts.fillWith value :=
  expand_eq_fillWith fun k hk => by
    have hk := Operation.declared_of_placeholder hv k hk
    rw [valueIn?_of_declared hk, h k hk]

theorem valueIn?_assign (hv : o.validate = .ok ()) (hd : pairs.Distinct) (ha : (assign o pairs).2 = none)
    (hk : k ∈ o.declaredNames) : valueIn? (assign o pairs).1.layers k = (pairs.get? k).or (o.default? k) := by
  obtain ⟨role, hr⟩ := Operation.exists_roleOf?_of_mem hk
  rw [valueIn?_layers_of_role fun r h => by rw [get?_slot_assign hv hd ha hr, if_neg h],
    get?_slot_assign hv hd ha hr, if_pos rfl]

theorem valueIn?_withFiles (hv : o.validate = .ok ()) (hd : pairs.Distinct) (ha : (assign o pairs).2 = none)
    (hi : (assign o pairs).1.inputs.SameKeys ins) (ho : (assign o pairs).1.outputs.SameKeys outs)
    (hk : k ∈ o.declaredNames) :
    (valueIn? ((assign o pairs).1.withFiles ins outs).layers k).getD "" = o.valueWithFiles pairs ins outs k := by
  obtain ⟨role, hr⟩ := Operation.exists_roleOf?_of_mem hk
  -- The maps that are put in hold the same names, so `k` stays in its own role.
  have hs : ∀ r, role ≠ r → (((assign o pairs).1.withFiles ins outs).slot r).get? k = none := by
    intro r h
    have hn : ((assign o pairs).1.slot r).get? k = none := by rw [get?_slot_assign hv hd ha hr, if_neg h]
    cases r with
    | inputFile => exact hi.get?_eq_none hn
    | outputFile => exact ho.get?_eq_none hn
    | other => exact hn
  rw [valueIn?_layers_of_role hs, Operation.valueWithFiles, hr]
  cases role with
  | inputFile => rfl
  | outputFile => rfl
  | other =>
    have hg := get?_slot_assign (r := .other) hv hd ha hr
    rw [if_pos rfl] at hg
    exact congrArg (·.getD "") hg

end Parameters

namespace ToolStage

variable {s t : ToolStage}

def withFiles (s : ToolStage) (ins outs : ParameterMap) : ToolStage :=
  { s with parameters := s.parameters.withFiles ins outs }

theorem assign_eq_ok_iff : s.assign pairs = (.ok (), t) ↔
    (Parameters.assign s.operation pairs).2 = none ∧
      t = { s with parameters := (Parameters.assign s.operation pairs).1 } := by
  simp only [assign]
  cases (Parameters.assign s.operation pairs).2 with
  | none => simp [eq_comm]
  | some k => simp

structure Expansion (s t : ToolStage) (given : List (String × String)) (m : Parts) : Prop where
  /-- The template is the command of the operation, taken apart. -/
  dissects : Dissects s.operation.command.toList m
  declared : ∀ k ∈ m.placeholders, k ∈ s.operation.declaredNames
  commandLine_eq : t.commandLine = m.fillWith (s.operation.valueOf (.ofList given))
  withFiles_eq : ∀ ins outs, t.parameters.inputs.SameKeys ins → t.parameters.outputs.SameKeys outs →
    (t.withFiles ins outs).commandLine = m.fillWith (s.operation.valueWithFiles (.ofList given) ins outs)
  /-- Nothing but the values of the declared names counts. -/
  determined : ∀ given' : List (String × String),
    (∀ k ∈ s.operation.declaredNames,
      (OrderedMap.ofList given').get? k = (OrderedMap.ofList given).get? k) →
    ∃ t', s.assign (.ofList given') = (.ok (), t') ∧ t'.commandLine = t.commandLine

theorem commandLine_of_assign (hv : s.operation.validate = .ok ()) (hd : pairs.Distinct)
    (ha : s.assign pairs = (.ok (), t)) :
    t.commandLine = s.operation.template.parts.fillWith (s.operation.valueOf pairs) := by
  obtain ⟨hn, rfl⟩ := assign_eq_ok_iff.1 ha
  refine Parameters.commandLine_eq_fillWith hv fun k hk => ?_
  rw [Parameters.valueIn?_assign hv hd hn hk, Operation.valueOf]

/-- Every placeholder of a valid template is filled in, and what is filled in is not looked at again. -/
theorem commandLine_expands (s t : ToolStage) (given : List (String × String))
    (hv : s.operation.validate = .ok ()) (ha : s.assign (.ofList given) = (.ok (), t)) :
    ∃ m, Expansion s t given m := by
  have hd := OrderedMap.distinct_ofList given
  obtain ⟨hn, rfl⟩ := assign_eq_ok_iff.1 ha
  refine ⟨s.operation.template.parts, dissects_ofChars _, Operation.declared_of_part hv,
    commandLine_of_assign hv hd ha, fun ins outs hi ho => ?_, fun given' hg => ?_⟩
  · exact Parameters.commandLine_eq_fillWith hv fun k hk => Parameters.valueIn?_withFiles hv hd hn hi ho hk
  · have hn' : (Parameters.assign s.operation (.ofList given')).2 = none := by
      rw [Parameters.assign_snd_congr fun k hk => ?_, hn]
      rw [OrderedMap.contains_eq_isSome_get?, OrderedMap.contains_eq_isSome_get?, hg k hk]
    have ha' := assign_eq_ok_iff.2 ⟨hn', rfl⟩
    refine ⟨_, ha', ?_⟩
    rw [commandLine_of_assign hv (OrderedMap.distinct_ofList given') ha', commandLine_of_assign hv hd ha]
    exact fillWith_congr fun k hk =>
      Operation.valueOf_congr (hg k (Operation.declared_of_part hv k hk))

/-- A stage that merges files, with an opening in its template that is closed nowhere. -/
def merging : ToolStage where
  label := "tool:merge"
  operation := {
    name := "merge"
    command := "merge $\x7bin\x7d -o $\x7bout\x7d --mode $\x7bmode\x7d $\x7btag\x7d $\x7bin"
    runtime := none
    inputs := [⟨"in", true, none⟩]
    outputs := [⟨"out", false, none⟩]
    parameters := [⟨"mode", false, some "fast"⟩, ⟨"tag", false, none⟩] }
  parameters := .empty
  workingDir := "."

/-- One of its values looks like a placeholder, and one is not declared. -/
def mergingPairs : List (String × String) := [("tag", "$\x7bmode\x7d"), ("extra", "1"), ("in", "a b")]

theorem commandLine_expands_merging :
    merging.operation.validate = .ok () ∧
      (∃ m, Expansion merging (merging.assign (.ofList mergingPairs)).2 mergingPairs m) ∧
      (merging.assign (.ofList mergingPairs)).2.commandLine = "merge a b -o  --mode fast $\x7bmode\x7d $\x7bin" := by
  have hv : merging.operation.validate = .ok () := by decide +kernel
  exact ⟨hv, commandLine_expands _ _ _ hv (Prod.ext (by decide) rfl), by decide +kernel⟩

end ToolStage

end ToolPipeline
