import ToolPipeline.Proofs.Storage.Directories

set_option autoImplicit false

/-!
Storage operations that fail. Each of them works out its places first, then creates the directories above
the place to be filled, and opens files last. Whatever stops it, no file was touched.
-/

namespace ToolPipeline.StorageRoots

open FileTree (AddsDirectories)

variable {σ : Type} {roots : StorageRoots} {reference wd l : String} {b : Bytes} {copy : Bool}
  {paths : List String} {e : StorageError} {s t : Session σ}

/-- How an operation fails: before it creates anything, or with directories created by then. -/
inductive Fails (paths : List String) (s : Session σ) : StorageError → Session σ → Prop
  | before (e : StorageError) : Fails paths s e s
  | after (name : String) (cause : FileError) {u : FileTree} (h : AddsDirectories paths s.files u) :
    Fails paths s (.ofFileError name cause) { s with files := u }

def parents (place : Except StorageError String) : List String := (place.toOption.map Path.above).getD []

theorem fails_of_write (h : roots.write reference b s = (.error e, t)) :
    Fails (parents (roots.resolve reference)) s e t := by
  cases hs : roots.resolve reference with
  | error e' =>
    rw [write, Action.bind_of_error hs] at h
    cases h
    exact .before e
  | ok path =>
    rw [write_eq hs] at h
    cases hp : FileTree.putFile path b s.files with
    | mk r u =>
      rw [hp] at h
      cases r with
      | ok _ => cases h
      | error cause =>
        cases h
        exact .after reference cause (FileTree.addsDirectories_of_putFile hp)

theorem fails_of_localize (h : roots.localize reference wd copy s = (.error e, t)) :
    Fails (parents ((Reference.parse reference).map fun r => Path.join wd r.localPath)) s e t := by
  cases hr : Reference.parse reference with
  | error e' =>
    rw [localize, Action.bind_of_error hr] at h
    cases h
    exact .before e
  | ok r =>
    cases r with
    | onMachine path =>
      rw [localize_onMachine hr] at h
      split at h <;> cases h
      exact .before _
    | remote scheme path =>
      cases hs : roots.resolve reference with
      | error e' =>
        rw [localize_unresolved hr hs] at h
        cases h
        exact .before e
      | ok source =>
        cases copy with
        | true =>
          rcases localize_fetch wd hr hs s with ⟨_, _, _, -, he⟩ | ⟨cause, u, hp, he⟩ <;> cases he.symm.trans h
          exact .after reference cause (FileTree.addsDirectories_of_place hp)
        | false =>
          rcases localize_prepare wd hr hs s with ⟨_, _, -, he⟩ | ⟨cause, u, hp, he⟩ <;> cases he.symm.trans h
          exact .after reference cause (FileTree.addsDirectories_of_makeParent hp)

theorem fails_of_delocalize (h : roots.delocalize l reference wd s = (.error e, t)) :
    Fails (parents (roots.resolve reference)) s e t := by
  cases hr : Reference.parse reference with
  | error e' =>
    rw [delocalize, Action.bind_of_error hr] at h
    cases h
    exact .before e
  | ok r =>
    cases r with
    | onMachine path =>
      rw [delocalize_onMachine hr] at h
      cases h
    | remote scheme path =>
      cases hs : roots.resolve reference with
      | error e' =>
        rw [delocalize, Action.bind_of_ok hr] at h
        dsimp only at h
        rw [Action.bind_of_error hs] at h
        cases h
        exact .before e
      | ok destination =>
        rcases delocalize_remote l wd hr hs s with ⟨_, _, _, -, he⟩ | ⟨cause, name, u, hp, he⟩ <;>
          cases he.symm.trans h
        exact .after name cause (FileTree.addsDirectories_of_place hp)

structure Kept (paths : List String) (e : StorageError) (s t : Session σ) : Prop where
  content_eq : ∀ m, t.files.content? m = s.files.content? m
  adds : AddsDirectories paths s.files t.files
  events_eq : t.events = s.events
  state_eq : t.state = s.state
  of_invalidReference : ∀ name, e = .invalidReference name → t = s
  of_unknownScheme : ∀ scheme name, e = .unknownScheme scheme name → t = s

theorem Fails.kept (h : Fails paths s e t) : Kept paths e s t := by
  cases h with
  | before => exact ⟨fun _ => rfl, .refl _ _, rfl, rfl, fun _ _ => rfl, fun _ _ _ => rfl⟩
  | after name cause hadds =>
    have hcause : (StorageError.ofFileError name cause = .notFound name) ∨
        StorageError.ofFileError name cause = .fileError name cause := by
      unfold StorageError.ofFileError
      split
      · exact .inl rfl
      · exact .inr rfl
    refine ⟨hadds.content?_eq, hadds, rfl, rfl, fun _ he => ?_, fun _ _ he => ?_⟩ <;>
      rcases hcause with hc | hc <;> cases hc.symm.trans he

/-- Where writing, localizing or publishing fails, all files are kept. Directories may have been created
above the place to be filled, but not where the reference itself was refused, and not in the name of a
file of this machine that is missing. -/
theorem failure_keeps_files (roots : StorageRoots) (reference : String) (e : StorageError) (s t : Session σ) :
    (∀ b, roots.write reference b s = (.error e, t) → Kept (parents (roots.resolve reference)) e s t) ∧
      (∀ wd copy, roots.localize reference wd copy s = (.error e, t) →
        Kept (parents ((Reference.parse reference).map fun r => Path.join wd r.localPath)) e s t ∧
          ∀ path, Reference.parse reference = .ok (.onMachine path) → e = .notFound reference ∧ t = s) ∧
      ∀ l wd, roots.delocalize l reference wd s = (.error e, t) →
        Kept (parents (roots.resolve reference)) e s t := by
  refine ⟨fun b h => (fails_of_write h).kept, fun wd copy h => ⟨(fails_of_localize h).kept, fun path hr => ?_⟩,
    fun l wd h => (fails_of_delocalize h).kept⟩
  rw [localize_onMachine hr] at h
  split at h <;> cases h
  exact ⟨rfl, rfl⟩

/-- The file to be fetched is missing, and by then there are directories for its copy. -/
theorem failure_keeps_files_missing : ∃ t,
    (single "data").localize "hdfs://a/in.txt" "work" true (.holding [(["work"], .directory),
        (["work", "kept"], .file (Text.encode "x"))]) = (.error (.notFound "hdfs://a/in.txt"), t) ∧
      t.files.holdsDirectory "work/hdfs/a" = true ∧ t.files.content? ["work", "kept"] = some (Text.encode "x") := by
  let s := Session.holding [(["work"], .directory), (["work", "kept"], .file (Text.encode "x"))]
  let t := ((single "data").localize "hdfs://a/in.txt" "work" true s).2
  have h : (single "data").localize "hdfs://a/in.txt" "work" true s = (.error (.notFound "hdfs://a/in.txt"), t) :=
    Prod.ext (by decide +kernel) rfl
  have hkept := ((failure_keeps_files (single "data") "hdfs://a/in.txt" _ s t).2.1 "work" true h).1
  exact ⟨t, h, by decide +kernel, (hkept.content_eq ["work", "kept"]).trans (by decide +kernel)⟩

end ToolPipeline.StorageRoots
