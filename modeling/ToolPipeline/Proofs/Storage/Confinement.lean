import ToolPipeline.Proofs.Config
import ToolPipeline.Proofs.FileTree.Within
import ToolPipeline.Proofs.Storage.Directories

set_option autoImplicit false

/-!
Remote references stay in the storage area of their scheme. A configuration and a reference check schemes in
different ways, and a reference checks its path; together this keeps every operation below the root of
the scheme on one side and below the directory of the scheme in the working directory on the other.
-/

namespace ToolPipeline

open FileTree (ChangesWithin HeldBelow)

/-- The reference stays below the root of its scheme and below the directory of its scheme in the working
directory, in all that is made of its text and in all that is done to files in its name. -/
structure StorageRoots.Confined (roots : StorageRoots) (reference scheme path root wd : String) : Prop where
  resolve_eq : roots.resolve reference = .ok (Path.join root path)
  path_confined : Reference.IsConfined path
  under_root : Path.Under root (Path.join root path)
  scheme_entry : Path.components (Path.join wd scheme) = Path.components wd ++ [.name scheme.toList]
  under_scheme : Path.Under (Path.join wd scheme) (Path.join wd (scheme ++ "/" ++ path))
  leads_root : ∀ (t : FileTree) l, t.locate (Path.join root path) = .ok l → t.Below root l
  leads_scheme : ∀ (t : FileTree) l, t.locate (Path.join wd (scheme ++ "/" ++ path)) = .ok l →
    t.Below (Path.join wd scheme) l
  read_within : ∀ {σ : Type} (s t : Session σ) b, roots.read reference s = (.ok b, t) →
    HeldBelow root s.files s.files b
  read_only : ∀ {σ : Type} (s : Session σ), (roots.read reference s).2 = s ∧ (roots.holds reference s).2 = s
  holds_within : ∀ {σ : Type} (s t : Session σ), roots.holds reference s = (.ok true, t) →
    ∃ l, s.files.Below root l ∧ (s.files.entry? l).isSome
  write_within : ∀ {σ : Type} (s : Session σ) b,
    ChangesWithin root (· = b) s.files (roots.write reference b s).2.files
  localize_eq : ∀ {σ : Type} (s t : Session σ) copy l, roots.localize reference wd copy s = (.ok l, t) →
    l = scheme ++ "/" ++ path
  localize_within : ∀ {σ : Type} (s t : Session σ) copy r, roots.localize reference wd copy s = (r, t) →
    ChangesWithin (Path.join wd scheme) (HeldBelow root s.files t.files) s.files t.files
  delocalize_within : ∀ {σ : Type} (s t : Session σ) r,
    roots.delocalize (scheme ++ "/" ++ path) reference wd s = (r, t) →
    ChangesWithin root (HeldBelow (Path.join wd scheme) s.files t.files) s.files t.files

namespace StorageRoots

variable {roots : StorageRoots} {reference scheme path root wd : String}

theorem notMem_of_pass {c : Char} (h : Config.isScheme scheme = true) (hc : c.isAlphanum = false) :
    c ∉ scheme.toList := fun hm =>
  absurd ((Config.isScheme_iff.1 h).2.2 c hm) (by simp [hc])

theorem join_scheme (h : Config.isScheme scheme = true) (hp : Path.isAbsolute path = false) :
    Path.join (Path.join wd scheme) path = Path.join wd (scheme ++ "/" ++ path) := by
  have hne := (Config.isScheme_iff.1 h).1
  have hs : '/' ∉ scheme.toList := notMem_of_pass h (by decide)
  refine Path.join_join ?_ hne (fun hl => hs (List.mem_of_getLast? hl)) hp
  rw [Path.isAbsolute_eq]
  exact beq_eq_false_iff_ne.2 fun hh => hs (List.mem_of_head? hh)

theorem isScheme_of_pass (h : Config.isScheme scheme = true) : Reference.IsScheme scheme := by
  obtain ⟨hne, hfile, hc⟩ := Config.isScheme_iff.1 h
  exact ⟨hne, fun c hm => by simp [Reference.isSchemeChar, hc c hm], hfile⟩

theorem confined_of_path (hr : Reference.parse reference = .ok (.remote scheme path)) :
    Reference.IsConfined path := by
  cases Reference.parse_eq_ok_iff.1 hr with
  | remote slashes hs hp => exact hp

section Files

variable {σ : Type} {s t : Session σ} {copy : Bool} {r : Except StorageError String}
  {r' : Except StorageError Unit} (h : Config.isScheme scheme = true)
  (hr : Reference.parse reference = .ok (.remote scheme path)) (hs : roots.resolve reference = .ok (Path.join root path))

include h hr hs

theorem localize_changesWithin (hl : roots.localize reference wd copy s = (r, t)) :
    ChangesWithin (Path.join wd scheme) (HeldBelow root s.files t.files) s.files t.files := by
  obtain ⟨-, hp, hu⟩ := confined_of_path hr
  have hjoin : Path.join (Path.join wd scheme) path = _ := join_scheme h hp
  cases copy with
  | true =>
    have hplace := FileTree.place_within root (Path.join wd scheme) hp hu hp hu s.files
    rw [hjoin] at hplace
    rcases localize_fetch wd hr hs s with ⟨_, _, _, hf, he⟩ | ⟨_, _, hf, he⟩ <;> rw [hf] at hplace <;>
      cases he.symm.trans hl <;> exact hplace
  | false =>
    have hparent := FileTree.makeParent_within (Path.join wd scheme) hp hu (HeldBelow root s.files t.files) s.files
    rw [hjoin] at hparent
    rcases localize_prepare wd hr hs s with ⟨_, _, hf, he⟩ | ⟨_, _, hf, he⟩ <;> rw [hf] at hparent <;>
      cases he.symm.trans hl <;> exact hparent

theorem delocalize_changesWithin (hl : roots.delocalize (scheme ++ "/" ++ path) reference wd s = (r', t)) :
    ChangesWithin root (HeldBelow (Path.join wd scheme) s.files t.files) s.files t.files := by
  obtain ⟨-, hp, hu⟩ := confined_of_path hr
  have hplace := FileTree.place_within (Path.join wd scheme) root hp hu hp hu s.files
  rw [join_scheme h hp] at hplace
  rcases delocalize_remote (scheme ++ "/" ++ path) wd hr hs s with ⟨_, _, _, hf, he⟩ | ⟨_, _, _, hf, he⟩ <;>
    rw [hf] at hplace <;> cases he.symm.trans hl <;> exact hplace

end Files

theorem confined_of_parse (h : Config.isScheme scheme = true)
    (hr : Reference.parse reference = .ok (.remote scheme path)) (hroot : roots.get? scheme = some root)
    (wd : String) : roots.Confined reference scheme path root wd := by
  have hs := resolve_remote hr hroot
  have hpath := confined_of_path hr
  obtain ⟨-, hp, hu⟩ := id hpath
  have hjoin : Path.join (Path.join wd scheme) path = _ := join_scheme h hp
  have hslash : '/' ∉ scheme.toList := notMem_of_pass h (by decide)
  have hdot : '.' ∉ scheme.toList := notMem_of_pass h (by decide)
  constructor
  case resolve_eq => exact hs
  case path_confined => exact hpath
  case under_root => exact Path.under_join hp hu
  case scheme_entry =>
    exact Path.components_join_name hslash (Config.isScheme_iff.1 h).1 (fun hd => hdot (by simp [hd]))
      fun hd => hdot (by simp [hd])
  case under_scheme => exact hjoin ▸ Path.under_join hp hu
  case leads_root => exact fun t l => FileTree.below_of_locate hp hu
  case leads_scheme => exact fun t l => hjoin ▸ FileTree.below_of_locate hp hu
  case read_within =>
    intro σ s t b hread
    rw [read_eq hs] at hread
    cases hb : s.files.read (Path.join root path) with
    | error e => rw [hb] at hread; cases hread
    | ok c => rw [hb] at hread; cases hread; exact FileTree.heldBelow_of_read hp hu hb
  case read_only => exact fun s => ⟨by rw [read_eq hs], by rw [holds_eq hs]⟩
  case holds_within =>
    intro σ s t hholds
    rw [holds_eq hs] at hholds
    exact FileTree.below_of_holds hp hu (Except.ok.inj (Prod.mk.inj hholds).1)
  case write_within =>
    intro σ s b
    rw [write_files hs]
    exact FileTree.putFile_within hp hu b s.files
  case localize_eq =>
    intro σ s t copy l hl
    obtain ⟨_, _, hr', -, rfl⟩ := localize_eq_ok hl
    cases hr.symm.trans hr'
    rfl
  case localize_within => exact fun s t copy r => localize_changesWithin h hr hs
  case delocalize_within => exact fun s t r => delocalize_changesWithin h hr hs

/-- Every path that stays in a storage area can be spelled behind the scheme of the area. -/
theorem parse_of_confined (h : Config.isScheme scheme = true) (hp : Reference.IsConfined path) :
    Reference.parse (scheme ++ "://" ++ path) = .ok (.remote scheme path) := by
  have := Reference.parse_eq_ok_iff.2 (Reference.Spells.remote 0 (isScheme_of_pass h) hp)
  simpa using this

end StorageRoots

/-- With the storage areas of a configuration that was loaded, remote references stay in their areas, and
every place of an area has a reference. -/
theorem Config.confines :
    (∀ configPath files c after, loadAndValidate configPath files = (.ok c, after) → c.SchemesPass) ∧
      ∀ c : Config, c.SchemesPass →
        (∀ wd reference scheme path root, Reference.parse reference = .ok (.remote scheme path) →
          c.roots.get? scheme = some root → c.roots.Confined reference scheme path root wd) ∧
        ∀ scheme root path, c.roots.get? scheme = some root → path ≠ "" → Path.isAbsolute path = false →
          .up ∉ Path.components path →
          Reference.parse (scheme ++ "://" ++ path) = .ok (.remote scheme path) ∧
            c.roots.resolve (scheme ++ "://" ++ path) = .ok (Path.join root path) := by
  refine ⟨fun configPath files c after h => schemesPass_of_loadAndValidate h, fun c hc => ⟨?_, ?_⟩⟩
  · intro wd reference scheme path root hr hroot
    exact StorageRoots.confined_of_parse (hc _ (OrderedMap.mem_keys_iff.2 ⟨root, hroot⟩)) hr hroot wd
  · intro scheme root path hroot hne hp hu
    have hr := StorageRoots.parse_of_confined (hc _ (OrderedMap.mem_keys_iff.2 ⟨root, hroot⟩)) ⟨hne, hp, hu⟩
    exact ⟨hr, StorageRoots.resolve_remote hr hroot⟩

def Config.withArea : Config := ⟨"tools", some "work", .single "data", none, none⟩

def FileTree.withConfiguration : FileTree :=
  ⟨⟨[(["tools"], .directory), (["pipewrap.yaml"], .file (Text.encode
    "repository: tools\nworking_dir: work\nstorage:\n  remotes:\n    hdfs: data\n"))]⟩, []⟩

/-- A path may open with slashes, go through a second scheme mark and hold a name that opens with two dots. -/
theorem Config.confines_withArea :
    (∃ after, loadAndValidate "pipewrap.yaml" .withConfiguration = (.ok withArea, after)) ∧
      withArea.roots.Confined "hdfs:///a://./..b" "hdfs" "a://./..b" "data" "work" ∧
      Reference.parse "hdfs://a://./..b" = .ok (.remote "hdfs" "a://./..b") ∧
      withArea.roots.resolve "hdfs://a://./..b" = .ok "data/a://./..b" := by
  have h : (loadAndValidate "pipewrap.yaml" .withConfiguration).1 = .ok withArea := by decide +kernel
  have hpass := confines.1 "pipewrap.yaml" .withConfiguration _ _ (Prod.ext h rfl)
  obtain ⟨hconfined, hplaces⟩ := confines.2 withArea hpass
  exact ⟨⟨_, Prod.ext h rfl⟩, hconfined "work" _ _ _ _ (by decide +kernel) (by decide),
    hplaces "hdfs" "data" "a://./..b" (by decide) (by decide) (by decide) (by decide +kernel)⟩

end ToolPipeline
