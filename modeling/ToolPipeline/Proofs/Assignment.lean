import Mathlib.Data.List.Find
import ToolPipeline.Proofs.OrderedMap
import ToolPipeline.Stage.Parameters

set_option autoImplicit false

/-!
What an assignment of parameters leaves under each name. `slot_assign` gives the parameters of a role as
what was given for it and the defaults behind that; `get?_slot_assign` gives the value of a declared name.
-/

namespace ToolPipeline

namespace OrderedMap

variable {κ α : Type} [DecidableEq κ]

def SameKeys (m m' : OrderedMap κ α) : Prop := ∀ k, m.contains k = m'.contains k

theorem contains_iff_mem_keys {m : OrderedMap κ α} {k : κ} : m.contains k = true ↔ k ∈ m.keys := by
  simp [contains, keys]

theorem sameKeys_of_keys_eq {m m' : OrderedMap κ α} (h : m.keys = m'.keys) : m.SameKeys m' := fun k => by
  rw [Bool.eq_iff_iff, contains_iff_mem_keys, contains_iff_mem_keys, h]

theorem SameKeys.get?_eq_none {m m' : OrderedMap κ α} {k : κ} (hm : m.SameKeys m') (h : m.get? k = none) :
    m'.get? k = none := by
  have hk := hm k
  rw [contains_eq_isSome_get?, contains_eq_isSome_get?, h] at hk
  exact Option.isSome_eq_false_iff.1 hk.symm |> Option.isNone_iff_eq_none.1

theorem find?_filter_key (P : κ → Bool) (l : List (κ × α)) (k : κ) :
    ((l.filter fun e => P e.1).find? fun e => e.1 = k) = if P k then l.find? fun e => e.1 = k else none := by
  rw [List.find?_filter]
  split
  · next hk => exact congrArg (l.find? ·) (funext fun e => by by_cases he : e.1 = k <;> simp [he, hk])
  · next hk => exact List.find?_eq_none.2 fun e _ => by by_cases he : e.1 = k <;> simp [he, hk]

end OrderedMap

namespace Operation

variable {o : Operation} {k : String}

theorem firstRepeated?_eq_none_iff {seen l : List String} :
    firstRepeated? seen l = none ↔ l.Nodup ∧ ∀ x ∈ l, x ∉ seen := by
  induction l generalizing seen with
  | nil => simp [firstRepeated?]
  | cons x l ih =>
    by_cases hx : x ∈ seen
    · simp [firstRepeated?, hx]
    · rw [firstRepeated?, if_neg (by simpa using hx), ih]
      simp only [List.mem_cons, List.nodup_cons, forall_eq_or_imp, not_or]
      constructor
      · rintro ⟨hl, hs⟩
        exact ⟨⟨fun h => (hs x h).1 rfl, hl⟩, hx, fun y hy => (hs y hy).2⟩
      · rintro ⟨⟨hxl, hl⟩, -, hs⟩
        exact ⟨hl, fun y hy => ⟨fun h => hxl (h ▸ hy), hs y hy⟩⟩

theorem validate_eq_ok_iff : o.validate = .ok () ↔
    (Text.trim o.command).isEmpty = false ∧ o.declaredNames.Nodup ∧
      ∀ k ∈ o.template.placeholders, k ∈ o.declaredNames := by
  have hd := @firstRepeated?_eq_none_iff [] o.declaredNames
  have hp : (o.template.placeholders.find? fun k => !o.declaredNames.contains k) = none ↔
      ∀ k ∈ o.template.placeholders, k ∈ o.declaredNames := by simp
  rw [← hp]
  simp only [List.not_mem_nil, not_false_eq_true, implies_true, and_true] at hd
  rw [← hd]
  unfold validate
  cases (Text.trim o.command).isEmpty with
  | true => simp
  | false =>
    cases firstRepeated? [] o.declaredNames with
    | some => simp
    | none => cases o.template.placeholders.find? fun k => !o.declaredNames.contains k <;> simp

def default? (o : Operation) (k : String) : Option String :=
  (o.declared.find? fun d => d.1.name == k).bind (·.1.default)

theorem exists_roleOf?_of_mem (h : k ∈ o.declaredNames) : ∃ role, o.roleOf? k = some role := by
  obtain ⟨d, hd, rfl⟩ := List.mem_map.1 h
  rw [← Option.isSome_iff_exists, roleOf?, Option.isSome_map, List.find?_isSome]
  exact ⟨d, hd, by simp⟩

end Operation

namespace Parameters

variable {o : Operation} {pairs : ParameterMap} {p : Parameters} {role r : ParameterRole} {k v : String}
  {specs : List (ParameterSpec × ParameterRole)}

def slot (p : Parameters) : ParameterRole → ParameterMap
  | .inputFile => p.inputs
  | .outputFile => p.outputs
  | .other => p.others

@[simp] theorem slot_put : (p.put role k v).slot r = if role = r then (p.slot r).insert k v else p.slot r := by
  cases role <;> cases r <;> rfl

/-- The pairs of a role. What is not declared belongs to the others. -/
def givenAs (o : Operation) (pairs : ParameterMap) (r : ParameterRole) : List (String × String) :=
  pairs.toList.filter fun e => (o.roleOf? e.1).getD .other = r

def defaultsAs (pairs : ParameterMap) (specs : List (ParameterSpec × ParameterRole)) (r : ParameterRole) :
    List (String × String) :=
  specs.filterMap fun d => if d.2 = r ∧ pairs.contains d.1.name = false then d.1.default.map (d.1.name, ·) else none

theorem slot_given : (given o pairs).slot r = .ofList (givenAs o pairs r) := by
  have h : ∀ (l : List (String × String)) (p : Parameters),
      (l.foldl (fun p e => p.put ((o.roleOf? e.1).getD .other) e.1 e.2) p).slot r =
        (l.filter fun e => (o.roleOf? e.1).getD .other = r).foldl (fun m e => m.insert e.1 e.2) (p.slot r) := by
    intro l
    induction l with
    | nil => simp
    | cons e l ih =>
      intro p
      rw [List.foldl_cons, ih, slot_put]
      by_cases he : (o.roleOf? e.1).getD .other = r <;> simp [he]
  rw [given, h, givenAs, OrderedMap.ofList]
  cases r <;> rfl

/-- The missing parameter is the first required one that is not given and has no default. -/
theorem addDefaults_snd : (addDefaults pairs p specs).2 =
    (specs.find? fun d => !pairs.contains d.1.name && d.1.default.isNone && d.1.required).map (·.1.name) := by
  fun_induction addDefaults pairs p specs with
  | case1 => rfl
  | case2 p spec role rest hc ih => simp [ih, hc]
  | case3 p spec role rest hc v hv ih => simp [ih, hv]
  | case4 p spec role rest hc hv hr => simp [hc, hv, hr]
  | case5 p spec role rest hc hv hr ih => simp [ih, hr]

theorem assign_snd_congr {pairs' : ParameterMap}
    (h : ∀ k ∈ o.declaredNames, pairs'.contains k = pairs.contains k) :
    (assign o pairs').2 = (assign o pairs).2 := by
  rw [assign, assign, addDefaults_snd, addDefaults_snd]
  congr 1
  refine List.find?_congr fun d hd => ?_
  rw [h _ (List.mem_map_of_mem hd)]

theorem slot_addDefaults (h : (addDefaults pairs p specs).2 = none) :
    (addDefaults pairs p specs).1.slot r =
      (defaultsAs pairs specs r).foldl (fun m e => m.insert e.1 e.2) (p.slot r) := by
  fun_induction addDefaults pairs p specs with
  | case1 => rfl
  | case2 p spec role rest hc ih => rw [ih h]; simp [defaultsAs, hc]
  | case3 p spec role rest hc v hv ih =>
    rw [ih h]
    by_cases hr : role = r <;> simp [defaultsAs, hc, hv, hr]
  | case4 => cases h
  | case5 p spec role rest hc hv _ ih => rw [ih h]; simp [defaultsAs, hv]

/-- The parameters of a role are the given ones and the defaults of those that are missing. -/
theorem slot_assign (h : (assign o pairs).2 = none) :
    (assign o pairs).1.slot r = .ofList (givenAs o pairs r ++ defaultsAs pairs o.declared r) := by
  rw [assign, slot_addDefaults h, slot_given, OrderedMap.ofList, OrderedMap.ofList, List.foldl_append]

theorem exists_of_mem_defaultsAs {e : String × String} (h : e ∈ defaultsAs pairs specs r) :
    ∃ d ∈ specs, d.1.name = e.1 ∧ pairs.contains e.1 = false := by
  obtain ⟨d, hd, he⟩ := List.mem_filterMap.1 h
  split at he
  · next hc =>
    obtain ⟨v, -, rfl⟩ := Option.map_eq_some_iff.1 he
    exact ⟨d, hd, rfl, hc.2⟩
  · cases he

theorem defaultsAs_keys_sublist :
    List.Sublist ((defaultsAs pairs specs r).map Prod.fst) (specs.map fun d => d.1.name) := by
  induction specs with
  | nil => exact .slnil
  | cons d specs ih =>
    unfold defaultsAs at ih ⊢
    by_cases hc : d.2 = r ∧ pairs.contains d.1.name = false
    · cases hv : d.1.default with
      | none => simpa [hc, hv] using ih.cons d.1.name
      | some v => simpa [hc, hv] using ih
    · simpa [hc] using ih.cons d.1.name

theorem nodup_assigned (hd : pairs.Distinct) (ho : o.declaredNames.Nodup) :
    ((givenAs o pairs r ++ defaultsAs pairs o.declared r).map Prod.fst).Nodup := by
  have hg : List.Sublist ((givenAs o pairs r).map Prod.fst) pairs.keys := List.filter_sublist.map _
  rw [List.map_append, List.nodup_append]
  refine ⟨hg.nodup hd, defaultsAs_keys_sublist.nodup ho, ?_⟩
  rintro k hk _ hk' rfl
  obtain ⟨e, he, rfl⟩ := List.mem_map.1 hk'
  obtain ⟨-, -, -, hc⟩ := exists_of_mem_defaultsAs he
  obtain ⟨e', he', hke⟩ := List.mem_map.1 (hg.subset hk)
  simp only [OrderedMap.contains, List.any_eq_false, decide_eq_true_eq] at hc
  exact hc e' he' hke

theorem find?_defaultsAs (hn : (specs.map fun d => d.1.name).Nodup) :
    ((defaultsAs pairs specs r).find? fun e => e.1 = k).map (·.2) =
      if pairs.contains k then none
      else (specs.find? fun d => d.1.name == k).bind fun d => if d.2 = r then d.1.default else none := by
  induction specs with
  | nil => simp [defaultsAs]
  | cons d specs ih =>
    rw [List.map_cons, List.nodup_cons] at hn
    have ih := ih hn.2
    unfold defaultsAs at ih ⊢
    rw [List.filterMap_cons]
    by_cases hk : d.1.name = k
    · -- Names are distinct, so that nothing behind is called `k`.
      have hs : (specs.find? fun d => d.1.name == k) = none :=
        List.find?_eq_none.2 fun d' hd' h => hn.1 (by rw [hk, ← beq_iff_eq.1 h]; exact List.mem_map_of_mem hd')
      rw [hs] at ih
      simp only [Option.bind_none, ite_self, Option.map_eq_none_iff] at ih
      subst hk
      by_cases hr : d.2 = r <;> cases hc : pairs.contains d.1.name <;> cases hv : d.1.default <;>
        simp [hr, hv, ih]
    · rw [List.find?_cons_of_neg (by simpa using hk), ← ih]
      split
      · rfl
      · next e he =>
        have hke : e.1 = d.1.name := by
          split at he
          · obtain ⟨v, -, rfl⟩ := Option.map_eq_some_iff.1 he
            rfl
          · cases he
        rw [List.find?_cons_of_neg (by simpa [hke] using hk)]

theorem find?_givenAs (hk : o.roleOf? k = some role) :
    ((givenAs o pairs r).find? fun e => e.1 = k).map (·.2) = if role = r then pairs.get? k else none := by
  rw [givenAs, OrderedMap.find?_filter_key fun k => decide ((o.roleOf? k).getD .other = r), hk]
  by_cases hr : role = r
  · simp [hr, OrderedMap.get?]
  · simp [hr]

/-- A declared name is held in its own role only, with what was given for it or else its default. -/
theorem get?_slot_assign (hv : o.validate = .ok ()) (hd : pairs.Distinct) (ha : (assign o pairs).2 = none)
    (hk : o.roleOf? k = some role) :
    ((assign o pairs).1.slot r).get? k = if role = r then (pairs.get? k).or (o.default? k) else none := by
  have ho := (Operation.validate_eq_ok_iff.1 hv).2.1
  rw [slot_assign ha, OrderedMap.ofList_of_nodup (nodup_assigned hd ho), OrderedMap.get?, List.find?_append,
    Option.map_or, find?_defaultsAs ho, find?_givenAs hk, OrderedMap.contains_eq_isSome_get?]
  obtain ⟨d, hf, rfl⟩ := Option.map_eq_some_iff.1 hk
  rw [hf, Operation.default?, hf]
  by_cases hr : d.2 = r
  · cases hp : pairs.get? k <;> simp [hr]
  · simp [hr]

end Parameters

end ToolPipeline
