import ToolPipeline.Config
import ToolPipeline.Proofs.FileTree.Operations

set_option autoImplicit false

/-! What is known about a configuration that was loaded. -/

namespace ToolPipeline.Config

variable {configPath scheme : String} {files after : FileTree} {c : Config}

def refusal (c : Config) (e : FileError) : String :=
  s!"cannot create working directory '{c.effectiveWorkingDir}': " ++ e.message

def settle (c : Config) (reasons : List String) : Except ConfigError Config :=
  if reasons.isEmpty then .ok c else .error (.invalid (reasons.mergeSort (· ≤ ·)))

theorem settle_eq_ok_iff {c' : Config} {reasons : List String} : c'.settle reasons = .ok c ↔ reasons = [] ∧ c' = c := by
  unfold settle
  cases reasons <;> simp

theorem settle_eq_error_iff {reasons : List String} {e : ConfigError} :
    c.settle reasons = .error e ↔ reasons ≠ [] ∧ .invalid (reasons.mergeSort (· ≤ ·)) = e := by
  unfold settle
  cases reasons <;> simp

def validate (c : Config) (files : FileTree) : Except ConfigError Config × FileTree :=
  match FileTree.makeDirectories c.effectiveWorkingDir files with
  | (.ok (), t) => (c.settle (c.problems files), t)
  | (.error e, t) => (c.settle (c.problems files ++ [c.refusal e]), t)

/-- A configuration is validated with its paths put behind the directory of its file. -/
theorem loadAndValidate_eq (configPath : String) (files : FileTree) :
    loadAndValidate configPath files = match load files configPath with
      | .error e => (.error e, files)
      | .ok c => validate (((Path.parent? configPath).map c.rebase).getD c) files := by
  have settled (c : Config) (reasons : List String) (t : FileTree) :
      (if reasons.isEmpty then pure c else throw (.invalid (reasons.mergeSort (· ≤ ·))) :
        ExceptT ConfigError (StateM FileTree) Config) t = (c.settle reasons, t) := by
    unfold settle
    split <;> rfl
  unfold loadAndValidate
  rw [FileTree.bind_apply, FileTree.get_apply]
  dsimp only
  rw [FileTree.bind_apply]
  cases load files configPath with
  | error e => rfl
  | ok c =>
    dsimp only [ExceptT.mk, pure, StateT.pure]
    -- The paths start from the directory of the file, where it has one.
    cases Path.parent? configPath with
    | none | some =>
      dsimp only [Option.map_none, Option.map_some, Option.getD_none, Option.getD_some]
      unfold validate
      dsimp only [StateT.run, ExceptT.run]
      rcases FileTree.makeDirectories _ files with ⟨e | _, t⟩ <;> dsimp only <;>
        rw [FileTree.bind_apply, FileTree.set_apply] <;> exact settled _ _ t

theorem problems_of_loadAndValidate (h : loadAndValidate configPath files = (.ok c, after)) :
    c.problems files = [] := by
  rw [loadAndValidate_eq] at h
  cases hl : load files configPath with
  | error e => rw [hl] at h; cases h
  | ok loaded =>
    rw [hl] at h
    dsimp only [validate] at h
    split at h
    · obtain ⟨hp, rfl⟩ := settle_eq_ok_iff.1 (Prod.mk.inj h).1
      exact hp
    · simpa using (settle_eq_ok_iff.1 (Prod.mk.inj h).1).1

def SchemesPass (c : Config) : Prop := ∀ scheme ∈ c.roots.keys, isScheme scheme = true

theorem schemesPass_of_loadAndValidate (h : loadAndValidate configPath files = (.ok c, after)) :
    c.SchemesPass := by
  intro scheme hs
  have hp := problems_of_loadAndValidate h
  unfold problems at hp
  have hnone := List.map_eq_nil_iff.1 (List.append_eq_nil_iff.1 hp).2
  simpa using List.filter_eq_nil_iff.1 hnone scheme hs

theorem isScheme_iff : isScheme scheme = true ↔
    scheme ≠ "" ∧ scheme ≠ "file" ∧ ∀ c ∈ scheme.toList, c.isAlphanum = true := by
  simp [isScheme, and_assoc]

end ToolPipeline.Config
