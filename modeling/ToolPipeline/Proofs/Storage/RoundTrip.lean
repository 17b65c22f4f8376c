import ToolPipeline.Proofs.Storage.Directories

set_option autoImplicit false

/-!
Publishing what a tool has left in the working directory, and getting it back. The paths on both sides are
made up separately, from the root and from the working directory.
-/

namespace ToolPipeline.StorageRoots

variable {σ : Type} {roots : StorageRoots} {reference scheme path source wd l : String} {b : Bytes}
  {s t : Session σ}

/-- The file at `source` was published with content `b`: it can be read under its reference, and no other file
has changed. -/
structure Published (roots : StorageRoots) (reference source : String) (b : Bytes) (s t : Session σ) : Prop where
  lookup_eq : t.files.lookup source = .ok (.file b)
  read_eq : roots.read reference t = (.ok b, t)
  holds_eq : roots.holds reference t = (.ok true, t)
  others : ∀ m, t.files.locate source ≠ .ok m → t.files.content? m = s.files.content? m

theorem published_of_delocalize (hr : Reference.parse reference = .ok (.remote scheme path))
    (hs : roots.resolve reference = .ok source) (hb : s.files.lookup (Path.join wd l) = .ok (.file b))
    (h : roots.delocalize l reference wd s = (.ok (), t))
    (hapart : ¬ t.files.SameFile (Path.join wd l) source) (hdevice : ∀ v, t.files.lookup source ≠ .ok (.device v)) :
    roots.Published reference source b s t := by
  obtain ⟨x, y, hplaced⟩ := placed_of_delocalize hr hs hb h
  have hl := hplaced.lookup_destination_iff.2 ⟨.inr hapart, hdevice⟩
  refine ⟨hl, ?_, ?_, fun m => hplaced.content?_eq⟩
  · rw [read_eq hs, FileTree.read_of_lookup_file hl]
    rfl
  · rw [holds_eq hs, FileTree.holds, hl]
    rfl

/-- What a tool leaves under the local name of a reference is published under the reference, and fetching it into
any working directory brings it back under the same name. References to this machine are published already. -/
theorem roundTrip (roots : StorageRoots) (reference wd l : String) (s₀ s₁ s₂ s₃ : Session σ) :
    (∀ scheme path source b, Reference.parse reference = .ok (.remote scheme path) →
      roots.resolve reference = .ok source →
      roots.localize reference wd false s₀ = (.ok l, s₁) →
      s₂.files.lookup (Path.join wd l) = .ok (.file b) →
      roots.delocalize l reference wd s₂ = (.ok (), s₃) →
      ¬ s₃.files.SameFile (Path.join wd l) source → (∀ v, s₃.files.lookup source ≠ .ok (.device v)) →
      roots.Published reference source b s₂ s₃ ∧
        ∀ (t t' : Session σ) (wd' l' : String), t.files.lookup source = .ok (.file b) →
          roots.localize reference wd' true t = (.ok l', t') →
          ¬ t'.files.SameFile source (Path.join wd' l') →
          (∀ v, t'.files.lookup (Path.join wd' l') ≠ .ok (.device v)) →
          l' = l ∧ t'.files.lookup (Path.join wd' l') = .ok (.file b)) ∧
    ∀ path, Reference.parse reference = .ok (.onMachine path) →
      roots.delocalize l reference wd s₂ = (.ok (), s₂) := by
  refine ⟨fun scheme path source b hr hs h₁ hb h₃ hapart hdevice => ?_, fun path hr => delocalize_onMachine hr s₂⟩
  refine ⟨published_of_delocalize hr hs hb h₃ hapart hdevice, fun t t' wd' l' ht h' hapart' hdevice' => ⟨?_, ?_⟩⟩
  · -- The local name is made of the reference alone.
    obtain ⟨r, _, hr₁, -, rfl⟩ := localize_eq_ok h₁
    obtain ⟨r', _, hr', -, rfl⟩ := localize_eq_ok h'
    cases hr₁.symm.trans hr'
    rfl
  · obtain ⟨x, y, hplaced⟩ := placed_of_localize hr hs ht h'
    exact hplaced.lookup_destination_iff.2 ⟨.inr hapart', hdevice'⟩

def withOutput (name content : String) (others : List (Location × Entry)) : Session Unit :=
  .holding (others ++ [(["work"], .directory), (["work", "hdfs"], .directory),
    (["work", "hdfs", name], .file (Text.encode content))])

theorem roundTrip_again :
    ((single "data").localize "hdfs:///r.txt" "work" false (.holding [])).1 = .ok "hdfs/r.txt" ∧
      ∃ t t',
        (single "data").delocalize "hdfs/r.txt" "hdfs:///r.txt" "work" (withOutput "r.txt" "x" []) = (.ok (), t) ∧
        (single "data").read "hdfs:///r.txt" t = (.ok (Text.encode "x"), t) ∧
        (single "data").localize "hdfs:///r.txt" "again" true t = (.ok "hdfs/r.txt", t') ∧
        t'.files.lookup "again/hdfs/r.txt" = .ok (.file (Text.encode "x")) := by
  let t := ((single "data").delocalize "hdfs/r.txt" "hdfs:///r.txt" "work" (withOutput "r.txt" "x" [])).2
  let t' := ((single "data").localize "hdfs:///r.txt" "again" true t).2
  have h₁ : ((single "data").localize "hdfs:///r.txt" "work" false (.holding [])).1 = .ok "hdfs/r.txt" := by
    decide +kernel
  have h₃ : (single "data").delocalize "hdfs/r.txt" "hdfs:///r.txt" "work" (withOutput "r.txt" "x" []) = (.ok (), t) :=
    Prod.ext (by decide +kernel) rfl
  have h' : (single "data").localize "hdfs:///r.txt" "again" true t = (.ok "hdfs/r.txt", t') :=
    Prod.ext (by decide +kernel) rfl
  have hsource : t.files.locate "data/r.txt" = .ok ["data", "r.txt"] := by decide +kernel
  have hlocal : t.files.locate "work/hdfs/r.txt" = .ok ["work", "hdfs", "r.txt"] := by decide +kernel
  have hsource' : t'.files.locate "data/r.txt" = .ok ["data", "r.txt"] := by decide +kernel
  have hlocal' : t'.files.locate "again/hdfs/r.txt" = .ok ["again", "hdfs", "r.txt"] := by decide +kernel
  obtain ⟨hpublished, hlater⟩ := (roundTrip (single "data") "hdfs:///r.txt" "work" "hdfs/r.txt" (.holding []) _ _ t).1
    "hdfs" "r.txt" "data/r.txt" (Text.encode "x") (by decide +kernel) rfl (Prod.ext h₁ rfl) (by decide +kernel) h₃
    (FileTree.not_sameFile hlocal hsource (by decide)) (FileTree.lookup_ne_device (by decide +kernel))
  have hback := hlater t t' "again" _ hpublished.lookup_eq h' (FileTree.not_sameFile hsource' hlocal' (by decide))
    (FileTree.lookup_ne_device (by decide +kernel))
  exact ⟨h₁, t, t', h₃, hpublished.read_eq, h', hback.2⟩

/-- What is published to a device is gone. -/
theorem roundTrip_swallowed :
    ((single "/dev").localize "hdfs://null" "work" false
        (.holding [(["dev"], .directory), (["dev", "null"], .device .null)])).1 = .ok "hdfs/null" ∧
      (single "/dev").resolve "hdfs://null" = .ok "/dev/null" ∧
      ∃ s t, s = withOutput "null" "x" [(["dev"], .directory), (["dev", "null"], .device .null)] ∧
        s.files.lookup "work/hdfs/null" = .ok (.file (Text.encode "x")) ∧
        (single "/dev").delocalize "hdfs/null" "hdfs://null" "work" s = (.ok (), t) ∧
        ¬ t.files.SameFile "work/hdfs/null" "/dev/null" ∧
        ((single "/dev").read "hdfs://null" t).1 = .ok [] := by
  let s := withOutput "null" "x" [(["dev"], .directory), (["dev", "null"], .device .null)]
  let t := ((single "/dev").delocalize "hdfs/null" "hdfs://null" "work" s).2
  have hlocal : t.files.locate "work/hdfs/null" = .ok ["work", "hdfs", "null"] := by decide +kernel
  have hsource : t.files.locate "/dev/null" = .ok ["dev", "null"] := by decide +kernel
  exact ⟨by decide +kernel, by decide +kernel, s, t, rfl, by decide +kernel, Prod.ext (by decide +kernel) rfl,
    FileTree.not_sameFile hlocal hsource (by decide), by decide +kernel⟩

end ToolPipeline.StorageRoots
