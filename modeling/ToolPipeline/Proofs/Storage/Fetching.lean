import ToolPipeline.Proofs.Storage.Directories

set_option autoImplicit false

/-!
Fetching a remote file. A copy appears in the working directory and no other file changes, so fetching may
be repeated. The root of the scheme and the working directory are chosen independently, however, and where
the two places of a file coincide, fetching empties it.
-/

namespace ToolPipeline.StorageRoots

variable {σ : Type} {roots : StorageRoots} {reference scheme path source wd l : String} {b : Bytes}
  {s t : Session σ}

theorem localize_again (hr : Reference.parse reference = .ok (.remote scheme path))
    (hs : roots.resolve reference = .ok source) (h : roots.localize reference wd true s = (.ok l, t))
    {u : Session σ} (hu : u.files = t.files) :
    ∃ u', roots.localize reference wd true u = (.ok l, u') ∧ u'.files = t.files := by
  obtain ⟨n, hp⟩ := place_of_localize hr hs h
  obtain ⟨k, hk⟩ := FileTree.place_again hp
  rw [← hu] at hk
  obtain ⟨_, _, hr', -, rfl⟩ := localize_eq_ok h
  cases hr.symm.trans hr'
  rcases localize_fetch wd hr hs u with ⟨_, v, events, hv, he⟩ | ⟨_, _, hv, -⟩ <;> cases hk.symm.trans hv
  exact ⟨_, he, hu⟩

/-- What fetching a file leaves behind: the file itself is kept unless its copy takes its place, the copy
holds what the file held unless it takes its place or goes to a device, and all other files are kept. -/
theorem localize_kept_iff (hr : Reference.parse reference = .ok (.remote scheme path))
    (hs : roots.resolve reference = .ok source) (hb : s.files.lookup source = .ok (.file b))
    (h : roots.localize reference wd true s = (.ok l, t)) :
    (t.files.lookup source = .ok (.file b) ↔ b = [] ∨ ¬ t.files.SameFile source (Path.join wd l)) ∧
      (t.files.lookup (Path.join wd l) = .ok (.file b) ↔
        (b = [] ∨ ¬ t.files.SameFile source (Path.join wd l)) ∧
          ∀ v, t.files.lookup (Path.join wd l) ≠ .ok (.device v)) ∧
      (t.files.SameFile source (Path.join wd l) → t.files.lookup source = .ok (.file [])) ∧
      (∀ m, t.files.locate (Path.join wd l) ≠ .ok m → t.files.content? m = s.files.content? m) ∧
      ∀ u : Session σ, u.files = t.files →
        ∃ u', roots.localize reference wd true u = (.ok l, u') ∧ u'.files = t.files := by
  obtain ⟨x, y, hplaced⟩ := placed_of_localize hr hs hb h
  refine ⟨hplaced.lookup_source_iff, hplaced.lookup_destination_iff, fun hsame => ?_,
    fun m => hplaced.content?_eq, fun u hu => localize_again hr hs h hu⟩
  rw [hplaced.lookup_source, if_pos (hplaced.sameFile_iff.1 hsame)]

/-- The root of the scheme is the working directory: the file goes from one place in it to another. -/
theorem localize_kept_iff_nested :
    ∃ t, (single "work").localize "hdfs://in.txt" "work" true (.holding
        [(["work"], .directory), (["work", "in.txt"], .file (Text.encode "v1"))]) = (.ok "hdfs/in.txt", t) ∧
      t.files.lookup "work/in.txt" = .ok (.file (Text.encode "v1")) ∧
      t.files.lookup "work/hdfs/in.txt" = .ok (.file (Text.encode "v1")) ∧
      ∀ u : Session Unit, u.files = t.files → ∃ u',
        (single "work").localize "hdfs://in.txt" "work" true u = (.ok "hdfs/in.txt", u') ∧ u'.files = t.files := by
  let s := Session.holding [(["work"], .directory), (["work", "in.txt"], .file (Text.encode "v1"))]
  let t := ((single "work").localize "hdfs://in.txt" "work" true s).2
  have h : (single "work").localize "hdfs://in.txt" "work" true s = (.ok "hdfs/in.txt", t) :=
    Prod.ext (by decide +kernel) rfl
  have hs : t.files.locate "work/in.txt" = .ok ["work", "in.txt"] := by decide +kernel
  have hd : t.files.locate "work/hdfs/in.txt" = .ok ["work", "hdfs", "in.txt"] := by decide +kernel
  have hv : t.files.holdsFile "work/hdfs/in.txt" = true := by decide +kernel
  have hapart := FileTree.not_sameFile hs hd (by decide)
  obtain ⟨hkept, harrived, -, -, hagain⟩ :=
    localize_kept_iff (by decide +kernel : Reference.parse "hdfs://in.txt" = .ok (.remote "hdfs" "in.txt")) rfl
      (by decide +kernel : s.files.lookup "work/in.txt" = .ok (.file (Text.encode "v1"))) h
  exact ⟨t, h, hkept.2 (.inr hapart), harrived.2 ⟨.inr hapart, FileTree.lookup_ne_device hv⟩, hagain⟩

/-- The root of the scheme is its directory in the working directory: the file is lost. -/
theorem localize_empties :
    ∃ s t : Session Unit,
      s = .holding [(["work"], .directory), (["work", "hdfs"], .directory),
        (["work", "hdfs", "in.txt"], .file (Text.encode "v1"))] ∧
      (single "work/hdfs").resolve "hdfs://in.txt" = .ok "work/hdfs/in.txt" ∧
      s.files.lookup "work/hdfs/in.txt" = .ok (.file (Text.encode "v1")) ∧
      (single "work/hdfs").localize "hdfs://in.txt" "work" true s = (.ok "hdfs/in.txt", t) ∧
      t.files.lookup "work/hdfs/in.txt" = .ok (.file []) :=
  ⟨_, _, rfl, by decide +kernel, by decide +kernel, Prod.ext (by decide +kernel) rfl, by decide +kernel⟩

end ToolPipeline.StorageRoots
