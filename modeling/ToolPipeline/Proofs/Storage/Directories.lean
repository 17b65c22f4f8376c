import ToolPipeline.Proofs.FileTree.Placing
import ToolPipeline.Proofs.Recording
import ToolPipeline.Proofs.Storage.Reference
import ToolPipeline.Storage.Directories

set_option autoImplicit false

/-!
Storage areas as operations on the tree. Localizing and publishing a remote file is placing it, in the
working directory or back below the root of its scheme.
-/

namespace ToolPipeline

variable {σ ε α : Type}

theorem Action.bind_of_ok {β : Type} {x : Except ε α} {a : α} (h : x = .ok a) (f : α → Action σ ε β)
    (s : Session σ) : (ExceptT.mk (pure x) >>= f) s = f a s := by
  subst h
  rfl

theorem Action.bind_of_error {β : Type} {x : Except ε α} {e : ε} (h : x = .error e) (f : α → Action σ ε β)
    (s : Session σ) : (ExceptT.mk (pure x) >>= f) s = (.error e, s) := by
  subst h
  rfl

theorem Action.onFiles_bind_apply {β : Type} (rename : FileError → ε) (a : FileAction α) (f : α → Action σ ε β)
    (s : Session σ) : (Action.onFiles rename a >>= f) s = match a s.files with
      | (.ok x, u) => f x { s with files := u }
      | (.error e, u) => (.error (rename e), { s with files := u }) := by
  rw [bind_apply, onFiles]
  rcases a s.files with ⟨_ | _, u⟩ <;> rfl

def Reference.localPath : Reference → String
  | onMachine path => path
  | remote scheme path => scheme ++ "/" ++ path

namespace StorageRoots

variable {roots : StorageRoots} {reference scheme path root source destination wd l : String} {copy : Bool}
  {b : Bytes} {s t : Session σ}

theorem resolve_onMachine (hr : Reference.parse reference = .ok (.onMachine path)) :
    roots.resolve reference = .ok path := by
  rw [resolve, hr]

theorem resolve_remote (hr : Reference.parse reference = .ok (.remote scheme path))
    (hs : roots.get? scheme = some root) : roots.resolve reference = .ok (Path.join root path) := by
  rw [resolve, hr]
  dsimp only
  rw [hs]

theorem read_eq (hs : roots.resolve reference = .ok path) (s : Session σ) :
    roots.read reference s = ((s.files.read path).mapError (.ofFileError reference), s) := by
  rw [read, read.liftExcept, Action.bind_of_ok hs]
  unfold Action.lookAtFiles
  dsimp only
  cases s.files.read path <;> rfl

theorem holds_eq (hs : roots.resolve reference = .ok path) (s : Session σ) :
    roots.holds reference s = (.ok (s.files.holds path), s) := by
  rw [holds, Action.bind_of_ok hs]
  rfl

theorem write_eq (hs : roots.resolve reference = .ok path) (b : Bytes) (s : Session σ) :
    roots.write reference b s = ((FileTree.putFile path b s.files).1.mapError (.ofFileError reference),
      { s with files := (FileTree.putFile path b s.files).2 }) := by
  rw [write, Action.bind_of_ok hs, Action.onFiles_bind_apply, FileTree.putFile, FileTree.bind_apply]
  rcases FileTree.makeParent path s.files with ⟨e | _, u⟩
  · rfl
  · dsimp only
    unfold Action.onFiles
    dsimp only
    rcases FileTree.write path b u with ⟨_ | _, v⟩ <;> rfl

theorem write_files (hs : roots.resolve reference = .ok path) (b : Bytes) (s : Session σ) :
    (roots.write reference b s).2.files = (FileTree.putFile path b s.files).2 := by
  rw [write_eq hs]

theorem localize_onMachine (hr : Reference.parse reference = .ok (.onMachine path)) (s : Session σ) :
    roots.localize reference wd copy s =
      if copy && !s.files.holds (Path.join wd path) then (.error (.notFound reference), s) else (.ok path, s) := by
  rw [localize, Action.bind_of_ok hr]
  dsimp only
  rw [Action.bind_apply, Action.get_apply]
  dsimp only
  split <;> rfl

theorem localize_unresolved (hr : Reference.parse reference = .ok (.remote scheme path)) {e : StorageError}
    (he : roots.resolve reference = .error e) (s : Session σ) :
    roots.localize reference wd copy s = (.error e, s) := by
  rw [localize, Action.bind_of_ok hr]
  exact Action.bind_of_error he _ s

theorem localize_fetch (wd : String) (hr : Reference.parse reference = .ok (.remote scheme path))
    (hs : roots.resolve reference = .ok source) (s : Session σ) :
    (∃ n u events, FileTree.place source (Path.join wd (scheme ++ "/" ++ path)) s.files = (.ok n, u) ∧
        roots.localize reference wd true s = (.ok (scheme ++ "/" ++ path), ⟨u, events, s.state⟩)) ∨
      ∃ e u, FileTree.place source (Path.join wd (scheme ++ "/" ++ path)) s.files = (.error e, u) ∧
        roots.localize reference wd true s = (.error (.ofFileError reference e), { s with files := u }) := by
  rw [localize, Action.bind_of_ok hr]
  dsimp only
  rw [Action.bind_of_ok hs, Action.onFiles_bind_apply, FileTree.place, FileTree.bind_apply]
  rcases FileTree.makeParent (Path.join wd (scheme ++ "/" ++ path)) s.files with ⟨e | _, u⟩
  · exact .inr ⟨e, u, rfl, rfl⟩
  · dsimp only
    rw [if_pos rfl, Action.onFiles_bind_apply]
    rcases FileTree.copy source (Path.join wd (scheme ++ "/" ++ path)) u with ⟨e | n, v⟩
    · exact .inr ⟨e, v, rfl, rfl⟩
    · exact .inl ⟨n, v, _, rfl, rfl⟩

theorem place_of_localize (hr : Reference.parse reference = .ok (.remote scheme path))
    (hs : roots.resolve reference = .ok source) (h : roots.localize reference wd true s = (.ok l, t)) :
    ∃ n, FileTree.place source (Path.join wd l) s.files = (.ok n, t.files) := by
  rcases localize_fetch wd hr hs s with ⟨n, _, _, hp, he⟩ | ⟨_, _, -, he⟩ <;> cases he.symm.trans h
  exact ⟨n, hp⟩

theorem placed_of_localize (hr : Reference.parse reference = .ok (.remote scheme path))
    (hs : roots.resolve reference = .ok source) (hb : s.files.lookup source = .ok (.file b))
    (h : roots.localize reference wd true s = (.ok l, t)) :
    ∃ x y, FileTree.Placed source (Path.join wd l) x y b s.files t.files := by
  obtain ⟨n, hp⟩ := place_of_localize hr hs h
  exact FileTree.placed_of_lookup hb hp

/-- Without its content, only the directory of a remote file is created. -/
theorem localize_prepare (wd : String) (hr : Reference.parse reference = .ok (.remote scheme path))
    (hs : roots.resolve reference = .ok source) (s : Session σ) :
    (∃ u events, FileTree.makeParent (Path.join wd (scheme ++ "/" ++ path)) s.files = (.ok (), u) ∧
        roots.localize reference wd false s = (.ok (scheme ++ "/" ++ path), ⟨u, events, s.state⟩)) ∨
      ∃ e u, FileTree.makeParent (Path.join wd (scheme ++ "/" ++ path)) s.files = (.error e, u) ∧
        roots.localize reference wd false s = (.error (.ofFileError reference e), { s with files := u }) := by
  rw [localize, Action.bind_of_ok hr]
  dsimp only
  rw [Action.bind_of_ok hs, Action.onFiles_bind_apply]
  rcases FileTree.makeParent (Path.join wd (scheme ++ "/" ++ path)) s.files with ⟨e | _, u⟩
  · exact .inr ⟨e, u, rfl, rfl⟩
  · exact .inl ⟨u, _, rfl, rfl⟩

/-- Localizing answers with a name that only depends on the reference, which has a place on this machine. -/
theorem localize_eq_ok (h : roots.localize reference wd copy s = (.ok l, t)) :
    ∃ r p, Reference.parse reference = .ok r ∧ roots.resolve reference = .ok p ∧ l = r.localPath := by
  cases hr : Reference.parse reference with
  | error e =>
    rw [localize, Action.bind_of_error hr] at h
    cases h
  | ok r =>
    cases r with
    | onMachine path =>
      rw [localize_onMachine hr] at h
      split at h <;> cases h
      exact ⟨_, _, rfl, resolve_onMachine hr, rfl⟩
    | remote scheme path =>
      cases hs : roots.resolve reference with
      | error e =>
        rw [localize_unresolved hr hs] at h
        cases h
      | ok source =>
        cases copy with
        | true =>
          rcases localize_fetch wd hr hs s with ⟨_, _, _, -, he⟩ | ⟨_, _, -, he⟩ <;> cases he.symm.trans h
          exact ⟨_, source, rfl, rfl, rfl⟩
        | false =>
          rcases localize_prepare wd hr hs s with ⟨_, _, -, he⟩ | ⟨_, _, -, he⟩ <;> cases he.symm.trans h
          exact ⟨_, source, rfl, rfl, rfl⟩

/-- Localizing changes no files, or it creates the directory of a copy, or it places the copy. -/
theorem localize_files {r : Except StorageError String} (h : roots.localize reference wd copy s = (r, t)) :
    t.files = s.files ∨ ∃ scheme path source, Reference.parse reference = .ok (.remote scheme path) ∧
      roots.resolve reference = .ok source ∧
      ((∃ r, FileTree.makeParent (Path.join wd (scheme ++ "/" ++ path)) s.files = (r, t.files)) ∨
        ∃ r, FileTree.place source (Path.join wd (scheme ++ "/" ++ path)) s.files = (r, t.files)) := by
  cases hr : Reference.parse reference with
  | error e =>
    rw [localize, Action.bind_of_error hr] at h
    cases h
    exact .inl rfl
  | ok r =>
    cases r with
    | onMachine path =>
      rw [localize_onMachine hr] at h
      split at h <;> cases h <;> exact .inl rfl
    | remote scheme path =>
      cases hs : roots.resolve reference with
      | error e =>
        rw [localize_unresolved hr hs] at h
        cases h
        exact .inl rfl
      | ok source =>
        refine .inr ⟨scheme, path, source, rfl, rfl, ?_⟩
        cases copy with
        | false =>
          rcases localize_prepare wd hr hs s with ⟨u, _, hm, he⟩ | ⟨_, u, hm, he⟩ <;> cases he.symm.trans h <;>
            exact .inl ⟨_, hm⟩
        | true =>
          rcases localize_fetch wd hr hs s with ⟨_, u, _, hp, he⟩ | ⟨_, u, hp, he⟩ <;> cases he.symm.trans h <;>
            exact .inr ⟨_, hp⟩

theorem delocalize_remote (l wd : String) (hr : Reference.parse reference = .ok (.remote scheme path))
    (hs : roots.resolve reference = .ok destination) (s : Session σ) :
    (∃ n u events, FileTree.place (Path.join wd l) destination s.files = (.ok n, u) ∧
        roots.delocalize l reference wd s = (.ok (), ⟨u, events, s.state⟩)) ∨
      ∃ e name u, FileTree.place (Path.join wd l) destination s.files = (.error e, u) ∧
        roots.delocalize l reference wd s = (.error (.ofFileError name e), { s with files := u }) := by
  rw [delocalize, Action.bind_of_ok hr]
  dsimp only
  rw [Action.bind_of_ok hs, Action.onFiles_bind_apply, FileTree.place, FileTree.bind_apply]
  rcases FileTree.makeParent destination s.files with ⟨e | _, u⟩
  · exact .inr ⟨e, _, u, rfl, rfl⟩
  · dsimp only
    rw [Action.onFiles_bind_apply]
    rcases FileTree.copy (Path.join wd l) destination u with ⟨e | n, v⟩
    · exact .inr ⟨e, _, v, rfl, rfl⟩
    · exact .inl ⟨n, v, _, rfl, rfl⟩

theorem placed_of_delocalize (hr : Reference.parse reference = .ok (.remote scheme path))
    (hs : roots.resolve reference = .ok destination) (hb : s.files.lookup (Path.join wd l) = .ok (.file b))
    (h : roots.delocalize l reference wd s = (.ok (), t)) :
    ∃ x y, FileTree.Placed (Path.join wd l) destination x y b s.files t.files := by
  rcases delocalize_remote l wd hr hs s with ⟨n, _, _, hp, he⟩ | ⟨_, _, _, -, he⟩ <;> cases he.symm.trans h
  exact FileTree.placed_of_lookup hb hp

theorem delocalize_onMachine (hr : Reference.parse reference = .ok (.onMachine path)) (s : Session σ) :
    roots.delocalize l reference wd s = (.ok (), s) := by
  rw [delocalize, Action.bind_of_ok hr]
  rfl

def single (root : String) : StorageRoots := ⟨[("hdfs", root)]⟩

end StorageRoots

def Session.holding (entries : List (Location × Entry)) : Session Unit := ⟨⟨⟨entries⟩, []⟩, [], ()⟩

end ToolPipeline
