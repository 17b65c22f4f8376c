import ToolPipeline.Proofs.Storage.Confinement
import ToolPipeline.Setup

set_option autoImplicit false

/-!
Local copies of remote files. A copy is named after the scheme and the path of its reference, and schemes hold
neither slashes nor dots, so the name tells the reference apart from all others but for the spelling of its
path. What is localized in the name of another reference does not touch it.
-/

namespace ToolPipeline

def Action.Keeps {σ ε α : Type} (P : Session σ → Prop) (a : Action σ ε α) : Prop := ∀ s, P s → P (a s).2

namespace Action.Keeps

variable {σ ε α β ι : Type} {P : Session σ → Prop}

theorem pure (x : α) : Keeps P (Pure.pure x : Action σ ε α) := fun _ hs => hs

theorem bind {a : Action σ ε α} {f : α → Action σ ε β} (h : Keeps P a) (hf : ∀ x, Keeps P (f x)) :
    Keeps P (a >>= f) := by
  intro s hs
  have ha := h s hs
  rw [Action.bind_apply]
  generalize a s = r at ha ⊢
  obtain ⟨e | x, t⟩ := r
  · exact ha
  · exact hf x t ha

theorem mapM {f : ι → Action σ ε α} {items : List ι} (h : ∀ x ∈ items, Keeps P (f x)) :
    Keeps P (items.mapM f) := by
  induction items with
  | nil => exact pure []
  | cons x items ih =>
    rw [List.mapM_cons]
    exact (h x List.mem_cons_self).bind fun _ =>
      (ih fun y hy => h y (List.mem_cons_of_mem _ hy)).bind fun _ => pure _

end Action.Keeps

namespace StorageRoots

open FileTree (AddsDirectories)

variable {σ : Type} {roots : StorageRoots} {reference scheme path scheme' path' root wd : String} {copy : Bool}

/-- Two paths below a root, or below a directory named like a scheme, that are spelled differently at most. -/
def Alike (scheme path scheme' path' : String) : Prop := scheme = scheme' ∧ Path.names path = Path.names path'

theorem dot_ne_of_pass (h : Config.isScheme scheme = true) : scheme ≠ "." := by
  rintro rfl
  exact absurd h (by decide)

theorem names_localPath (h : Config.isScheme scheme = true) (path : String) :
    Path.names (scheme ++ "/" ++ path) = scheme.toList :: Path.names path :=
  Path.names_append (notMem_of_pass h (by decide)) (Config.isScheme_iff.1 h).1 (dot_ne_of_pass h) path

theorem names_localPath_inj (h : Config.isScheme scheme = true) (h' : Config.isScheme scheme' = true) :
    Path.names (scheme ++ "/" ++ path) = Path.names (scheme' ++ "/" ++ path') ↔ Alike scheme path scheme' path' := by
  rw [names_localPath h, names_localPath h', List.cons.injEq, String.toList_inj, Alike]

theorem isConfined_localPath (h : Config.isScheme scheme = true) (hp : Reference.IsConfined path) :
    Reference.IsConfined (scheme ++ "/" ++ path) := by
  have hslash : '/' ∉ scheme.toList := notMem_of_pass h (by decide)
  have hdot : '.' ∉ scheme.toList := notMem_of_pass h (by decide)
  have hne := (Config.isScheme_iff.1 h).1
  refine ⟨by simp [hne], ?_, ?_⟩
  · rw [String.append_assoc, Path.isAbsolute_append hne, Path.isAbsolute_eq]
    exact beq_eq_false_iff_ne.2 fun hh => hslash (List.mem_of_head? hh)
  · rw [Path.up_mem_components_iff, Path.slices_append hslash, List.mem_cons, ← Path.up_mem_components_iff, not_or]
    exact ⟨fun hs => hdot (by simp [← hs]), hp.up_notMem⟩

theorem mem_keys_of_resolve {source : String} (hr : Reference.parse reference = .ok (.remote scheme path))
    (hs : roots.resolve reference = .ok source) : scheme ∈ roots.keys := by
  rw [resolve, hr] at hs
  dsimp only at hs
  cases hg : roots.get? scheme with
  | none =>
    rw [hg] at hs
    cases hs
  | some root =>
    exact OrderedMap.mem_keys_iff.2 ⟨root, hg⟩

def HoldsCopy (wd scheme path : String) (e : Entry) (s : Session σ) : Prop :=
  s.files.lookup (Path.join wd (scheme ++ "/" ++ path)) = .ok e

def Spares (scheme path reference : String) : Prop :=
  ∀ scheme' path', Reference.parse reference = .ok (.remote scheme' path') → ¬ Alike scheme path scheme' path'

section Keeping

variable (hc : ∀ scheme ∈ roots.keys, Config.isScheme scheme = true) (h : Config.isScheme scheme = true)
  (hp : Reference.IsConfined path) (wd : String) (copy : Bool) (e : Entry)

include hc h hp

theorem localize_keepsCopy (hr : Spares scheme path reference) :
    Action.Keeps (σ := σ) (HoldsCopy wd scheme path e) (roots.localize reference wd copy) := by
  intro s he
  unfold HoldsCopy at he ⊢
  generalize hl : roots.localize reference wd copy s = r
  obtain ⟨_, t⟩ := r
  rcases localize_files hl with heq | ⟨scheme', path', source, hparse, hs, ⟨_, hmake⟩ | ⟨_, hplace⟩⟩
  · exact heq ▸ he
  · exact (FileTree.addsDirectories_of_makeParent hmake).lookup_eq he
  · -- The two places are one only if the names on the way to them agree.
    refine FileTree.lookup_of_place hplace (fun x hx hx' => hr scheme' path' hparse ?_) he
    have h' := hc scheme' (mem_keys_of_resolve hparse hs)
    obtain ⟨-, ha, hu⟩ := isConfined_localPath h hp
    obtain ⟨-, ha', hu'⟩ := isConfined_localPath h' (confined_of_path hparse)
    exact (names_localPath_inj h h').1 ((FileTree.locate_join_inj ha hu ha' hu' hx hx').1 rfl)

theorem localizeAll_keepsCopy {separator value : String}
    (hr : ∀ reference ∈ Text.fragments separator value, Spares scheme path reference) :
    Action.Keeps (σ := σ) (HoldsCopy wd scheme path e) (roots.storage.localizeAll separator wd copy value) :=
  (Action.Keeps.mapM fun reference hm => localize_keepsCopy hc h hp wd copy e (hr reference hm)).bind fun _ => .pure _

end Keeping

theorem resolve_of_alike {reference' : String} (hr : Reference.parse reference = .ok (.remote scheme path))
    (hr' : Reference.parse reference' = .ok (.remote scheme' path')) (hk : scheme ∈ roots.keys)
    (ha : Alike scheme path scheme' path') : ∃ p p', roots.resolve reference = .ok p ∧
      roots.resolve reference' = .ok p' ∧ Path.isAbsolute p = Path.isAbsolute p' ∧ Path.names p = Path.names p' ∧
      ∀ (t : FileTree) l l', t.locate p = .ok l → t.locate p' = .ok l' → l = l' := by
  obtain ⟨rfl, hnames⟩ := ha
  obtain ⟨root, hroot⟩ := OrderedMap.mem_keys_iff.1 hk
  obtain ⟨-, hp, hu⟩ := confined_of_path hr
  obtain ⟨-, hp', hu'⟩ := confined_of_path hr'
  have habs {p : String} (hp : Path.isAbsolute p = false) :
      Path.isAbsolute (Path.join root p) = Path.isAbsolute root := by
    obtain ⟨-, -, -, -, ha⟩ := Path.slices_join root hp
    exact ha
  refine ⟨_, _, resolve_remote hr hroot, resolve_remote hr' hroot, (habs hp).trans (habs hp').symm, ?_, ?_⟩
  · rw [Path.names_join root hp, Path.names_join root hp', hnames]
  · exact fun t l l' hl hl' => (FileTree.locate_join_inj hp hu hp' hu' hl hl').2 hnames

/-- Two remote references and their local copies. The copies have one path, up to its spelling, only if the
references stand for one file. -/
structure CopiesApart (roots : StorageRoots) (reference scheme path reference' scheme' path' : String) : Prop where
  relative : ∀ {σ : Type} (s t : Session σ) wd copy l, roots.localize reference wd copy s = (.ok l, t) →
    Path.isAbsolute l = false
  names_iff : ∀ {σ : Type} (s t s' t' : Session σ) wd wd' copy copy' l l',
    roots.localize reference wd copy s = (.ok l, t) → roots.localize reference' wd' copy' s' = (.ok l', t') →
      (Path.names l = Path.names l' ↔ Alike scheme path scheme' path')
  resolve_eq : Alike scheme path scheme' path' → ∃ p p', roots.resolve reference = .ok p ∧
    roots.resolve reference' = .ok p' ∧ Path.isAbsolute p = Path.isAbsolute p' ∧ Path.names p = Path.names p' ∧
    ∀ (t : FileTree) l l', t.locate p = .ok l → t.locate p' = .ok l' → l = l'
  keeps_copy : ¬ Alike scheme path scheme' path' → ∀ (σ : Type) wd copy e,
    Action.Keeps (σ := σ) (HoldsCopy wd scheme path e) (roots.localize reference' wd copy)

theorem copiesApart {reference' : String} (hc : ∀ scheme ∈ roots.keys, Config.isScheme scheme = true)
    (hr : Reference.parse reference = .ok (.remote scheme path)) (hk : scheme ∈ roots.keys)
    (hr' : Reference.parse reference' = .ok (.remote scheme' path')) (hk' : scheme' ∈ roots.keys) :
    roots.CopiesApart reference scheme path reference' scheme' path' := by
  have hp := confined_of_path hr
  have localPath_of_localize {reference scheme path wd l : String} {copy : Bool} {σ : Type} {s t : Session σ}
      (hr : Reference.parse reference = .ok (.remote scheme path))
      (hl : roots.localize reference wd copy s = (.ok l, t)) : l = scheme ++ "/" ++ path := by
    obtain ⟨_, _, hparse, -, rfl⟩ := localize_eq_ok hl
    cases hr.symm.trans hparse
    rfl
  constructor
  case relative =>
    intro σ s t wd copy l hl
    rw [localPath_of_localize hr hl]
    exact (isConfined_localPath (hc scheme hk) hp).relative
  case names_iff =>
    intro σ s t s' t' wd wd' copy copy' l l' hl hl'
    rw [localPath_of_localize hr hl, localPath_of_localize hr' hl']
    exact names_localPath_inj (hc scheme hk) (hc scheme' hk')
  case resolve_eq => exact resolve_of_alike hr hr' hk
  case keeps_copy =>
    intro hne σ wd copy e
    refine localize_keepsCopy hc (hc scheme hk) hp wd copy e fun _ _ hparse => ?_
    cases hr'.symm.trans hparse
    exact hne

end StorageRoots

open StorageRoots (HoldsCopy Spares)

/-- With the storage areas of a configuration that was loaded, different remote files have different local
copies, and localizing the files of a command spares the copies of all files that it does not name. -/
theorem Config.keeps_copies_apart :
    (∀ configPath files c after, loadAndValidate configPath files = (.ok c, after) → c.SchemesPass) ∧
      ∀ c : Config, c.SchemesPass → ∀ reference scheme path,
        Reference.parse reference = .ok (.remote scheme path) → scheme ∈ c.roots.keys →
        (∀ reference' scheme' path', Reference.parse reference' = .ok (.remote scheme' path') →
          scheme' ∈ c.roots.keys → c.roots.CopiesApart reference scheme path reference' scheme' path') ∧
        ∀ (σ : Type) (w : Wrapper σ) copy e (m : ParameterMap), w.storage = c.roots.storage →
          (∀ value ∈ m.values, ∀ reference' ∈ Text.fragments w.separator value, Spares scheme path reference') →
          Action.Keeps (HoldsCopy w.workingDir scheme path e) (w.localizeMap copy m) := by
  refine ⟨fun configPath files c after h => schemesPass_of_loadAndValidate h, fun c hc => ?_⟩
  refine fun reference scheme path hr hk => ⟨fun _ _ _ => StorageRoots.copiesApart hc hr hk, ?_⟩
  intro σ w copy e m hw hm
  have hp := StorageRoots.confined_of_path hr
  -- One parameter after another, and one reference after another in its value.
  refine Action.Keeps.bind (.mapM fun entry he => .bind ?_ fun _ => .pure _) fun _ => .pure _
  rw [hw]
  exact StorageRoots.localizeAll_keepsCopy hc (hc scheme hk) hp _ copy e (hm _ (List.mem_map_of_mem he))

/-- Two references share a copy, and the copy of another file is spared, although a missing file ends the run. -/
theorem Config.keeps_copies_apart_withArea :
    let s : Session Catalog := ⟨⟨⟨[(["data"], .directory), (["data", "a"], .file (Text.encode "x")),
      (["work"], .directory), (["work", "hdfs"], .directory), (["work", "hdfs", "b"], .file (Text.encode "y"))]⟩,
      []⟩, [], ∅⟩
    let t := (withArea.wrapper.localizeMap true ⟨[("in", "hdfs:///a hdfs://.//a plain")]⟩ s).2
    t.files.lookup "work/hdfs/a" = .ok (.file (Text.encode "x")) ∧
      HoldsCopy "work" "hdfs" "b" (.file (Text.encode "y")) t ∧
      withArea.roots.CopiesApart "hdfs://b" "hdfs" "b" "hdfs:///b/." "hdfs" "b/." := by
  intro s t
  have hload : (loadAndValidate "pipewrap.yaml" .withConfiguration).1 = .ok withArea := by decide +kernel
  have hpass := keeps_copies_apart.1 "pipewrap.yaml" .withConfiguration _ _ (Prod.ext hload rfl)
  have hb : Reference.parse "hdfs://b" = .ok (.remote "hdfs" "b") := by decide +kernel
  obtain ⟨hpairs, hruns⟩ := keeps_copies_apart.2 withArea hpass _ _ _ hb (by decide)
  have hcopy : s.files.lookup "work/hdfs/b" = .ok (.file (Text.encode "y")) := by decide +kernel
  refine ⟨by decide +kernel, hruns Catalog withArea.wrapper true _ _ rfl ?_ s hcopy,
    hpairs _ _ _ (by decide +kernel) (by decide)⟩
  have hfragments : Text.fragments " " "hdfs:///a hdfs://.//a plain" = ["hdfs:///a", "hdfs://.//a", "plain"] := by
    decide +kernel
  have hfirst : Reference.parse "hdfs:///a" = .ok (.remote "hdfs" "a") := by decide +kernel
  have hsecond : Reference.parse "hdfs://.//a" = .ok (.remote "hdfs" ".//a") := by decide +kernel
  have hplain : Reference.parse "plain" = .ok (.onMachine "plain") := by decide +kernel
  have ha : Path.names "b" ≠ Path.names "a" := by decide +kernel
  have ha' : Path.names "b" ≠ Path.names ".//a" := by decide +kernel
  rintro value hv reference hm scheme path hr
  obtain rfl : value = "hdfs:///a hdfs://.//a plain" := List.mem_singleton.1 hv
  change reference ∈ Text.fragments " " _ at hm
  rw [hfragments] at hm
  simp only [List.mem_cons, List.not_mem_nil, or_false] at hm
  rcases hm with rfl | rfl | rfl
  · cases hfirst.symm.trans hr
    exact fun h => ha h.2
  · cases hsecond.symm.trans hr
    exact fun h => ha' h.2
  · cases hplain.symm.trans hr

end ToolPipeline
