import Mathlib.Data.List.Perm.Basic
import ToolPipeline.Proofs.Substitution

set_option autoImplicit false

/-!
Parameters by role. `assign_partitions` says when parameters cannot be assigned, and that otherwise every
one that was given and every default that is used stands in the map of one role, in a fixed order, whatever
the stage held before.
-/

namespace ToolPipeline

namespace Operation

variable {o : Operation}

theorem roleOf?_of_mem (h : o.declaredNames.Nodup) {d : ParameterSpec × ParameterRole} (hd : d ∈ o.declared) :
    o.roleOf? d.1.name = some d.2 := by
  obtain ⟨role, hr⟩ := exists_roleOf?_of_mem (List.mem_map_of_mem hd)
  obtain ⟨e, he, rfl⟩ := Option.map_eq_some_iff.1 hr
  have hname : e.1.name = d.1.name := by simpa using List.find?_some he
  rw [hr, List.inj_on_of_nodup_map h (List.mem_of_find?_eq_some he) hd hname]

end Operation

namespace Parameters

variable {o : Operation} {pairs : ParameterMap} {p : Parameters} {role : ParameterRole} {k : String}

theorem filter_role_perm {α : Type} (f : α → ParameterRole) (l : List α) :
    (l.filter (f · = .inputFile) ++ l.filter (f · = .outputFile) ++ l.filter (f · = .other)).Perm l := by
  induction l with
  | nil => exact .nil
  | cons x l ih =>
    cases hx : f x with
    | inputFile => simpa [hx] using ih.cons x
    | outputFile =>
      have hx' : (l.filter (f · = .inputFile) ++ x :: l.filter (f · = .outputFile)).Perm _ := List.perm_middle
      simpa [hx] using (hx'.append_right (l.filter (f · = .other))).trans (ih.cons x)
    | other =>
      have hx' : (l.filter (f · = .inputFile) ++ l.filter (f · = .outputFile) ++ x :: l.filter (f · = .other)).Perm _ :=
        List.perm_middle
      simpa [hx] using hx'.trans (ih.cons x)

def defaultOf? (pairs : ParameterMap) (d : ParameterSpec × ParameterRole) : Option (String × String) :=
  if pairs.contains d.1.name = false then d.1.default.map (d.1.name, ·) else none

theorem defaultsAs_eq (specs : List (ParameterSpec × ParameterRole)) (role : ParameterRole) :
    defaultsAs pairs specs role = (specs.filter (·.2 = role)).filterMap (defaultOf? pairs) := by
  rw [defaultsAs, List.filterMap_filter]
  refine List.filterMap_congr fun d _ => ?_
  by_cases hr : d.2 = role <;> simp [hr, defaultOf?]

/-- What is assigned in all: everything given, and the defaults that are used. -/
def assigned (o : Operation) (pairs : ParameterMap) : List (String × String) :=
  pairs.toList ++ o.declared.filterMap (defaultOf? pairs)

theorem assigned_perm (o : Operation) (pairs : ParameterMap) :
    (givenAs o pairs .inputFile ++ defaultsAs pairs o.declared .inputFile ++
    (givenAs o pairs .outputFile ++ defaultsAs pairs o.declared .outputFile) ++
    (givenAs o pairs .other ++ defaultsAs pairs o.declared .other)).Perm (assigned o pairs) := by
  have hg := filter_role_perm (fun e : String × String => (o.roleOf? e.1).getD .other) pairs.toList
  have hd := (filter_role_perm (·.2) o.declared).filterMap (defaultOf? pairs)
  simp only [List.filterMap_append, ← defaultsAs_eq] at hd
  -- What was given and the defaults are sorted separately and then joined role by role.
  refine List.Perm.trans (List.perm_iff_count.2 fun e => ?_) (hg.append hd)
  simp only [givenAs, List.count_append]
  omega

theorem mem_defaultsAs {e : String × String} {specs : List (ParameterSpec × ParameterRole)}
    (h : e ∈ defaultsAs pairs specs role) : ∃ d ∈ specs, d.2 = role ∧ d.1.name = e.1 := by
  rw [defaultsAs_eq] at h
  obtain ⟨d, hd, he⟩ := List.mem_filterMap.1 h
  obtain ⟨hmem, hrole⟩ := List.mem_filter.1 hd
  unfold defaultOf? at he
  split at he
  · obtain ⟨v, -, rfl⟩ := Option.map_eq_some_iff.1 he
    exact ⟨d, hmem, by simpa using hrole, rfl⟩
  · cases he

theorem role_of_mem (ho : o.declaredNames.Nodup) {e : String × String}
    (h : e ∈ givenAs o pairs role ++ defaultsAs pairs o.declared role) : (o.roleOf? e.1).getD .other = role := by
  rcases List.mem_append.1 h with hg | hd
  · simpa using (List.mem_filter.1 hg).2
  · obtain ⟨d, hmem, rfl, hname⟩ := mem_defaultsAs hd
    rw [← hname, Operation.roleOf?_of_mem ho hmem, Option.getD_some]

/-- Nothing can be assigned to a parameter: it is required, but has no default and is not given. -/
def Lacks (pairs : ParameterMap) (d : ParameterSpec × ParameterRole) : Prop :=
  d.1.required = true ∧ d.1.default = none ∧ d.1.name ∉ pairs.keys

theorem lacks_iff {d : ParameterSpec × ParameterRole} :
    (!pairs.contains d.1.name && d.1.default.isNone && d.1.required) = true ↔ Lacks pairs d := by
  simp only [Bool.and_eq_true, Bool.not_eq_true', ← Bool.not_eq_true, OrderedMap.contains_iff_mem_keys,
    Option.isNone_iff_eq_none, Lacks]
  tauto

theorem assign_snd_eq_none_iff : (assign o pairs).2 = none ↔ ∀ d ∈ o.declared, ¬ Lacks pairs d := by
  rw [assign, addDefaults_snd, Option.map_eq_none_iff, List.find?_eq_none]
  simp only [lacks_iff]

def FirstLacking (o : Operation) (pairs : ParameterMap) (k : String) : Prop :=
  ∃ before d after, o.declared = before ++ d :: after ∧ Lacks pairs d ∧ d.1.name = k ∧ ∀ c ∈ before, ¬ Lacks pairs c

theorem firstLacking_of_assign (h : (assign o pairs).2 = some k) : FirstLacking o pairs k := by
  rw [assign, addDefaults_snd] at h
  obtain ⟨d, hfind, rfl⟩ := Option.map_eq_some_iff.1 h
  obtain ⟨hd, before, after, hsplit, hbefore⟩ := List.find?_eq_some_iff_append.1 hfind
  refine ⟨before, d, after, hsplit, lacks_iff.1 hd, rfl, fun c hc hlacks => ?_⟩
  have hno := hbefore c hc
  rw [lacks_iff.2 hlacks] at hno
  cases hno

end Parameters

namespace ToolStage

open Parameters

structure Partition (o : Operation) (pairs : ParameterMap) (p : Parameters) : Prop where
  /-- For each role, what was given in the order of the line, and behind that the defaults of what was not
  given in the order of declaration. -/
  slot_eq : ∀ role, (p.slot role).toList = givenAs o pairs role ++ defaultsAs pairs o.declared role
  distinct : ∀ role, (p.slot role).Distinct
  disjoint : ∀ role role' k, k ∈ (p.slot role).keys → k ∈ (p.slot role').keys → role = role'
  /-- Nothing is lost, and nothing stands twice. -/
  perm : (p.inputs.toList ++ p.outputs.toList ++ p.others.toList).Perm (assigned o pairs)
  given : ∀ k v, pairs.get? k = some v → (p.slot ((o.roleOf? k).getD .other)).get? k = some v

theorem partition_of_assign {o : Operation} {pairs : ParameterMap} (hv : o.validate = .ok ()) (hd : pairs.Distinct)
    (ha : (Parameters.assign o pairs).2 = none) : Partition o pairs (Parameters.assign o pairs).1 := by
  have ho := (Operation.validate_eq_ok_iff.1 hv).2.1
  have hslot (role : ParameterRole) : ((Parameters.assign o pairs).1.slot role).toList =
      givenAs o pairs role ++ defaultsAs pairs o.declared role := by
    rw [slot_assign ha, OrderedMap.ofList_of_nodup (nodup_assigned hd ho)]
  have hrole {role : ParameterRole} {k : String} (hk : k ∈ ((Parameters.assign o pairs).1.slot role).keys) :
      (o.roleOf? k).getD .other = role := by
    obtain ⟨e, he, rfl⟩ := List.mem_map.1 hk
    rw [hslot] at he
    exact role_of_mem ho he
  have hdistinct (role : ParameterRole) : ((Parameters.assign o pairs).1.slot role).Distinct := by
    rw [OrderedMap.Distinct, OrderedMap.keys, hslot]
    exact nodup_assigned hd ho
  refine ⟨hslot, hdistinct, fun role role' k h h' => (hrole h).symm.trans (hrole h'), ?_, fun k v hk => ?_⟩
  · have hperm := assigned_perm o pairs
    rwa [← hslot, ← hslot, ← hslot] at hperm
  · have hmem : (k, v) ∈ givenAs o pairs ((o.roleOf? k).getD .other) :=
      List.mem_filter.2 ⟨OrderedMap.mem_of_get? hk, by simp⟩
    exact (hdistinct _).get?_of_mem (e := (k, v)) (by rw [hslot]; exact List.mem_append_left _ hmem)

structure Assigns (s : ToolStage) (pairs : ParameterMap) : Prop where
  error_iff : (∃ e, (s.assign pairs).1 = .error e) ↔ ∃ d ∈ s.operation.declared, Lacks pairs d
  error : ∀ e, (s.assign pairs).1 = .error e → ∃ k, e = .missingParameter s.label k ∧ FirstLacking s.operation pairs k
  ok : (s.assign pairs).1 = .ok () → Partition s.operation pairs (s.assign pairs).2.parameters
  /-- A stage of the same operation ends up with the same, whatever was set before. -/
  forgets : ∀ s' : ToolStage, s'.label = s.label → s'.operation = s.operation →
    (s'.assign pairs).1 = (s.assign pairs).1 ∧ (s'.assign pairs).2.parameters = (s.assign pairs).2.parameters

theorem assign_fst_eq (s : ToolStage) (pairs : ParameterMap) : (s.assign pairs).1 =
    match (Parameters.assign s.operation pairs).2 with
    | some k => .error (.missingParameter s.label k)
    | none => .ok () := rfl

theorem assign_parameters (s : ToolStage) (pairs : ParameterMap) :
    (s.assign pairs).2.parameters = (Parameters.assign s.operation pairs).1 := rfl

/-- Parameters are split by role without loss, in a fixed order, and without a trace of earlier ones. -/
theorem assign_partitions (s : ToolStage) (given : List (String × String)) (hv : s.operation.validate = .ok ()) :
    Assigns s (.ofList given) := by
  refine ⟨?_, fun e he => ?_, fun hok => ?_, fun s' hlabel hoperation => ?_⟩
  · have hnone : ¬ (Parameters.assign s.operation (.ofList given)).2 = none ↔
        ¬ ∀ d ∈ s.operation.declared, ¬ Lacks (.ofList given) d := not_congr assign_snd_eq_none_iff
    simp only [not_forall, not_not, exists_prop] at hnone
    rw [← hnone, assign_fst_eq]
    cases (Parameters.assign s.operation (.ofList given)).2 <;> simp
  · rw [assign_fst_eq] at he
    cases ha : (Parameters.assign s.operation (.ofList given)).2 with
    | none => rw [ha] at he; cases he
    | some k =>
      rw [ha] at he
      cases he
      exact ⟨k, rfl, firstLacking_of_assign ha⟩
  · rw [assign_parameters]
    refine partition_of_assign hv (OrderedMap.distinct_ofList given) ?_
    rw [assign_fst_eq] at hok
    cases ha : (Parameters.assign s.operation (.ofList given)).2 with
    | none => rfl
    | some k => rw [ha] at hok; cases hok
  · rw [assign_fst_eq, assign_fst_eq, assign_parameters, assign_parameters, hlabel, hoperation]
    exact ⟨rfl, rfl⟩

theorem assign_partitions_merging :
    merging.operation.validate = .ok () ∧ Assigns merging (.ofList mergingPairs) ∧
      (merging.assign (.ofList mergingPairs)).2.parameters =
        ⟨⟨[("in", "a b")]⟩, ∅, ⟨[("tag", "$\x7bmode\x7d"), ("extra", "1"), ("mode", "fast")]⟩⟩ := by
  have hv : merging.operation.validate = .ok () := by decide +kernel
  exact ⟨hv, assign_partitions merging mergingPairs hv, by decide⟩

end ToolStage

end ToolPipeline
