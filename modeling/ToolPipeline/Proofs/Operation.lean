import ToolPipeline.Proofs.Partition
import ToolPipeline.Proofs.Placeholders
import ToolPipeline.Proofs.Text.Blank

set_option autoImplicit false

/-!
Which operations are well formed. Three things are asked for in a fixed order, and the first that is missing
is the answer: a command, names that differ from each other, and a declaration for every placeholder. Behind
the check a name has one role, that of the one list it stands in.
-/

namespace ToolPipeline

namespace Operation

variable {o : Operation} {k : String} {r : Except OperationError Unit} {role : ParameterRole}

def HasCommand (o : Operation) : Prop := ∃ c ∈ o.command.toList, Text.isBlank c = false

theorem hasCommand_iff : o.HasCommand ↔ (Text.trim o.command).isEmpty = false := by
  rw [← Bool.not_eq_true, Text.trim_isEmpty_iff]
  simp [HasCommand]

def namesAs (o : Operation) : ParameterRole → List String
  | .inputFile => o.inputs.map (·.name)
  | .outputFile => o.outputs.map (·.name)
  | .other => o.parameters.map (·.name)

theorem declaredNames_eq (o : Operation) :
    o.declaredNames = o.namesAs .inputFile ++ o.namesAs .outputFile ++ o.namesAs .other := by
  simp [declaredNames, declared, namesAs, Function.comp_def]

theorem mem_declaredNames_iff : k ∈ o.declaredNames ↔ ∃ role, k ∈ o.namesAs role := by
  rw [declaredNames_eq, List.mem_append, List.mem_append]
  constructor
  · rintro ((h | h) | h)
    · exact ⟨_, h⟩
    · exact ⟨_, h⟩
    · exact ⟨_, h⟩
  · rintro ⟨role, h⟩
    cases role with
    | inputFile => exact .inl (.inl h)
    | outputFile => exact .inl (.inr h)
    | other => exact .inr h

theorem exists_declared_of_mem_namesAs (h : k ∈ o.namesAs role) : ∃ d ∈ o.declared, d.1.name = k ∧ d.2 = role := by
  cases role with
  | inputFile =>
    obtain ⟨spec, hs, rfl⟩ := List.mem_map.1 h
    exact ⟨(spec, .inputFile), by simp [declared, hs], rfl, rfl⟩
  | outputFile =>
    obtain ⟨spec, hs, rfl⟩ := List.mem_map.1 h
    exact ⟨(spec, .outputFile), by simp [declared, hs], rfl, rfl⟩
  | other =>
    obtain ⟨spec, hs, rfl⟩ := List.mem_map.1 h
    exact ⟨(spec, .other), by simp [declared, hs], rfl, rfl⟩

structure NamesDiffer (o : Operation) : Prop where
  within : ∀ role, (o.namesAs role).Nodup
  across : ∀ role role' k, k ∈ o.namesAs role → k ∈ o.namesAs role' → role = role'

theorem namesDiffer_iff : o.NamesDiffer ↔ o.declaredNames.Nodup := by
  rw [declaredNames_eq, List.nodup_append', List.nodup_append', List.disjoint_append_left]
  constructor
  · rintro ⟨hw, ha⟩
    have hdisjoint {role role' : ParameterRole} (hr : role ≠ role') :
        List.Disjoint (o.namesAs role) (o.namesAs role') := fun k h h' => hr (ha role role' k h h')
    exact ⟨⟨hw _, hw _, hdisjoint (by decide)⟩, hw _, hdisjoint (by decide), hdisjoint (by decide)⟩
  · rintro ⟨⟨hi, ho, hio⟩, hp, hip, hop⟩
    refine ⟨fun role => ?_, fun role role' k h h' => ?_⟩
    · cases role with
      | inputFile => exact hi
      | outputFile => exact ho
      | other => exact hp
    · cases role <;> cases role'
      case inputFile.inputFile | outputFile.outputFile | other.other => rfl
      case inputFile.outputFile => exact absurd h' (hio h)
      case inputFile.other => exact absurd h' (hip h)
      case outputFile.inputFile => exact absurd h (hio h')
      case outputFile.other => exact absurd h' (hop h)
      case other.inputFile => exact absurd h (hip h')
      case other.outputFile => exact absurd h (hop h')

theorem firstRepeated?_eq_some_iff {seen l : List String} : firstRepeated? seen l = some k ↔
    ∃ before after, l = before ++ k :: after ∧ (k ∈ seen ∨ k ∈ before) ∧ before.Nodup ∧
      ∀ x ∈ before, x ∉ seen := by
  induction l generalizing seen with
  | nil => simp [firstRepeated?]
  | cons x l ih =>
    by_cases hx : x ∈ seen
    · rw [firstRepeated?, if_pos (by simpa using hx)]
      constructor
      · intro h
        cases h
        exact ⟨[], l, rfl, .inl hx, List.nodup_nil, by simp⟩
      · rintro ⟨before, after, hl, -, -, hseen⟩
        cases before with
        | nil => rw [(List.cons.inj hl).1]
        | cons y before =>
          obtain ⟨rfl, -⟩ := List.cons.inj hl
          exact absurd hx (hseen x List.mem_cons_self)
    · rw [firstRepeated?, if_neg (by simpa using hx), ih]
      constructor
      · rintro ⟨before, after, rfl, hk, hb, hseen⟩
        have hxb : x ∉ before := fun h => hseen x h List.mem_cons_self
        refine ⟨x :: before, after, rfl, ?_, List.nodup_cons.2 ⟨hxb, hb⟩, fun y hy => ?_⟩
        · rw [List.mem_cons] at hk ⊢
          tauto
        · rcases List.mem_cons.1 hy with rfl | hy
          · exact hx
          · exact fun h => hseen y hy (List.mem_cons_of_mem _ h)
      · rintro ⟨before, after, hl, hk, hb, hseen⟩
        cases before with
        | nil =>
          obtain ⟨rfl, -⟩ := List.cons.inj hl
          exact absurd hk (by simp [hx])
        | cons y before =>
          obtain ⟨rfl, rfl⟩ := List.cons.inj hl
          obtain ⟨hxb, hb⟩ := List.nodup_cons.1 hb
          refine ⟨before, after, rfl, ?_, hb, fun y hy h => ?_⟩
          · rw [List.mem_cons] at hk ⊢
            tauto
          · rcases List.mem_cons.1 h with rfl | h
            · exact hxb hy
            · exact hseen y (List.mem_cons_of_mem _ hy) h

/-- What there is to say of an operation: the first thing that is wrong with it, or that it is well formed. -/
inductive Verdict (o : Operation) : Except OperationError Unit → Prop
  | emptyCommand (h : ∀ c ∈ o.command.toList, Text.isBlank c = true) : Verdict o (.error (.emptyCommand o.name))
  /-- The names in front of the repeated one differ, so it is the earliest. -/
  | duplicate {before after : List String} {k : String} (hc : o.HasCommand)
    (hnames : o.namesAs .inputFile ++ o.namesAs .outputFile ++ o.namesAs .other = before ++ k :: after)
    (hb : before.Nodup) (hk : k ∈ before) : Verdict o (.error (.duplicateParameter o.name k))
  /-- The placeholders in front of the undeclared one are declared, so it is the leftmost. -/
  | undeclared {t : Template.Parts} {before after : List (List Char × List Char)} {p : List Char × List Char}
    (hc : o.HasCommand) (hd : o.NamesDiffer) (ht : t.Cuts o.command.toList)
    (hpieces : t.pieces = before ++ p :: after) (hb : ∀ q ∈ before, ∃ role, .ofList q.2 ∈ o.namesAs role)
    (hp : ∀ role, .ofList p.2 ∉ o.namesAs role) : Verdict o (.error (.undeclaredPlaceholder o.name (.ofList p.2)))
  | wellFormed {t : Template.Parts} (hc : o.HasCommand) (hd : o.NamesDiffer) (ht : t.Cuts o.command.toList)
    (hp : ∀ p ∈ t.pieces, ∃ role, .ofList p.2 ∈ o.namesAs role) : Verdict o (.ok ())

theorem find?_undeclared_eq_some_iff : (o.template.placeholders.find? fun k => !o.declaredNames.contains k) = some k ↔
    ∃ before p after, o.template.parts.pieces = before ++ p :: after ∧ .ofList p.2 = k ∧
      (∀ q ∈ before, ∃ role, .ofList q.2 ∈ o.namesAs role) ∧ ∀ role, k ∉ o.namesAs role := by
  simp only [← mem_declaredNames_iff, ← not_exists, Template.placeholders_eq_parts, Template.Parts.placeholders,
    List.find?_map, Option.map_eq_some_iff, List.find?_eq_some_iff_append]
  constructor
  · rintro ⟨p, ⟨hp, before, after, hpieces, hb⟩, rfl⟩
    exact ⟨before, p, after, hpieces, rfl, fun q hq => by simpa using hb q hq, by simpa using hp⟩
  · rintro ⟨before, p, after, hpieces, rfl, hb, hp⟩
    exact ⟨p, ⟨by simpa using hp, before, after, hpieces, fun q hq => by simpa using hb q hq⟩, rfl⟩

theorem verdict_validate (o : Operation) : o.Verdict o.validate := by
  have ht : o.template.parts.Cuts o.command.toList := Template.cuts_iff.2 rfl
  unfold validate
  split
  · next hc => exact .emptyCommand (Text.trim_isEmpty_iff.1 hc)
  · next hc =>
    have hc : o.HasCommand := hasCommand_iff.2 (by simpa using hc)
    split
    · next k hk =>
      obtain ⟨before, after, hnames, hk, hb, -⟩ := firstRepeated?_eq_some_iff.1 hk
      rw [declaredNames_eq] at hnames
      exact .duplicate hc hnames hb (hk.resolve_left List.not_mem_nil)
    · next hk =>
      have hd : o.NamesDiffer := namesDiffer_iff.2 (firstRepeated?_eq_none_iff.1 hk).1
      split
      · next k hk =>
        obtain ⟨before, p, after, hpieces, rfl, hb, hp⟩ := find?_undeclared_eq_some_iff.1 hk
        exact .undeclared hc hd ht hpieces hb hp
      · next hk =>
        refine .wellFormed hc hd ht fun p hp => ?_
        rw [Template.placeholders_eq_parts] at hk
        have hk := List.find?_eq_none.1 hk _ (List.mem_map_of_mem hp)
        exact mem_declaredNames_iff.1 (by simpa using hk)

theorem validate_of_verdict (h : o.Verdict r) : o.validate = r := by
  cases h with
  | emptyCommand h => rw [validate, if_pos (Text.trim_isEmpty_iff.2 h)]
  | duplicate hc hnames hb hk =>
    rw [← declaredNames_eq] at hnames
    have hfirst : firstRepeated? [] o.declaredNames = some _ :=
      firstRepeated?_eq_some_iff.2 ⟨_, _, hnames, .inr hk, hb, by simp⟩
    rw [validate, hasCommand_iff.1 hc, hfirst]
    rfl
  | @undeclared t before after p hc hd ht hpieces hb hp =>
    obtain rfl := Template.cuts_iff.1 ht
    have hnone : firstRepeated? [] o.declaredNames = none :=
      firstRepeated?_eq_none_iff.2 ⟨namesDiffer_iff.1 hd, by simp⟩
    have hfind := find?_undeclared_eq_some_iff.2 ⟨before, p, after, hpieces, rfl, hb, hp⟩
    rw [validate, hasCommand_iff.1 hc, hnone, hfind]
    rfl
  | wellFormed hc hd ht hp =>
    obtain rfl := Template.cuts_iff.1 ht
    refine validate_eq_ok_iff.2 ⟨hasCommand_iff.1 hc, namesDiffer_iff.1 hd, fun k hk => ?_⟩
    rw [Template.placeholders_eq_parts] at hk
    obtain ⟨p, hmem, rfl⟩ := List.mem_map.1 hk
    exact mem_declaredNames_iff.2 (hp p hmem)

theorem roleOf?_eq_some_iff (hd : o.NamesDiffer) : o.roleOf? k = some role ↔ k ∈ o.namesAs role := by
  have hrole {role : ParameterRole} (hk : k ∈ o.namesAs role) : o.roleOf? k = some role := by
    obtain ⟨d, hmem, rfl, rfl⟩ := exists_declared_of_mem_namesAs hk
    exact roleOf?_of_mem (namesDiffer_iff.1 hd) hmem
  refine ⟨fun h => ?_, hrole⟩
  have hk : k ∈ o.declaredNames := by
    obtain ⟨d, hfind, -⟩ := Option.map_eq_some_iff.1 h
    have hname : d.1.name = k := by simpa using List.find?_some hfind
    exact hname ▸ List.mem_map_of_mem (List.mem_of_find?_eq_some hfind)
  obtain ⟨role', hk⟩ := mem_declaredNames_iff.1 hk
  cases (hrole hk).symm.trans h
  exact hk

theorem roleOf?_eq_none_iff (hd : o.NamesDiffer) : o.roleOf? k = none ↔ ∀ role, k ∉ o.namesAs role := by
  rw [Option.eq_none_iff_forall_ne_some]
  exact forall_congr' fun role => not_congr (roleOf?_eq_some_iff hd)

/-- The check tells of every operation what there is to say of it, and behind it a name has one role, that of
the one list that declares it. -/
theorem validate_decides (o : Operation) :
    (∀ r, o.validate = r ↔ o.Verdict r) ∧ (o.validate = .ok () → ∀ k,
      (∀ role, o.roleOf? k = some role ↔ k ∈ o.namesAs role ∧ ∀ role', k ∈ o.namesAs role' → role' = role) ∧
        (o.roleOf? k = none ↔ ∀ role, k ∉ o.namesAs role)) := by
  refine ⟨fun r => ⟨fun h => h ▸ verdict_validate o, validate_of_verdict⟩, fun hok k => ?_⟩
  have hd : o.NamesDiffer := namesDiffer_iff.2 (validate_eq_ok_iff.1 hok).2.1
  refine ⟨fun role => ?_, roleOf?_eq_none_iff hd⟩
  rw [roleOf?_eq_some_iff hd]
  exact ⟨fun h => ⟨h, fun role' h' => hd.across role' role k h' h⟩, fun h => h.1⟩

theorem validate_decides_merging : ToolStage.merging.operation.validate = .ok () ∧
    ToolStage.merging.operation.roleOf? "out" = some .outputFile ∧
    ToolStage.merging.operation.roleOf? "extra" = none := by
  have hv : ToolStage.merging.operation.validate = .ok () := by decide +kernel
  have hroles := (validate_decides ToolStage.merging.operation).2 hv
  refine ⟨hv, ((hroles "out").1 .outputFile).2 ⟨by decide, fun role h => ?_⟩, (hroles "extra").2.2 fun role => ?_⟩
  · cases role <;> revert h <;> decide
  · cases role <;> decide

/-- Names are compared across the lists, and a name counts where it stands for the second time. -/
example : validate ⟨"op", "run", none, [⟨"a", true, none⟩, ⟨"b", true, none⟩], [⟨"b", true, none⟩],
    [⟨"a", true, none⟩]⟩ = .error (.duplicateParameter "op" "b") := by decide +kernel

end Operation

end ToolPipeline
