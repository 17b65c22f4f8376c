import ToolPipeline.Proofs.Config.Loading
import ToolPipeline.Proofs.FileTree.Creating

set_option autoImplicit false

/-!
What a configuration is refused for. Its flaws are found independently of each other, and what is said about
them is sorted, so that it does not matter in which order the storage areas are looked at.
-/

namespace ToolPipeline.Config

variable {c d : Config} {files : FileTree} {entries : List (String × String)} {base : String}

inductive Flaw where
  | noRepository
  | emptySeparator
  | badScheme (scheme : String)
  | noWorkingDir (cause : FileError)
  deriving DecidableEq

namespace Flaw

/-- The flaws of a configuration. The repository has to be there before the working directory is created. -/
inductive Of (c : Config) (files : FileTree) : Flaw → Prop
  | noRepository (h : files.holdsDirectory c.repository = false) : Of c files .noRepository
  | emptySeparator (h : c.effectiveSeparator = "") : Of c files .emptySeparator
  | badScheme {scheme : String} (hk : scheme ∈ c.roots.keys)
    (h : scheme = "" ∨ scheme = "file" ∨ ∃ x ∈ scheme.toList, x.isAlphanum = false) : Of c files (.badScheme scheme)
  | noWorkingDir {cause : FileError}
    (h : (FileTree.makeDirectories c.effectiveWorkingDir files).1 = .error cause) : Of c files (.noWorkingDir cause)

def text (c : Config) : Flaw → String
  | noRepository => s!"tool repository '{c.repository}' is not a directory"
  | emptySeparator => "separator must not be empty"
  | badScheme scheme => s!"invalid storage scheme '{scheme}'"
  | noWorkingDir cause => c.refusal cause

end Flaw

def settingFlaws (c : Config) (files : FileTree) : List Flaw :=
  (if files.holdsDirectory c.repository then [] else [.noRepository]) ++
  (if c.effectiveSeparator.isEmpty then [.emptySeparator] else []) ++
  (c.roots.keys.filter fun s => !isScheme s).map .badScheme

def flaws (c : Config) (files : FileTree) : List Flaw :=
  c.settingFlaws files ++
  match (FileTree.makeDirectories c.effectiveWorkingDir files).1 with
  | .ok () => []
  | .error e => [.noWorkingDir e]

theorem not_isScheme_iff {scheme : String} : isScheme scheme = false ↔
    scheme = "" ∨ scheme = "file" ∨ ∃ x ∈ scheme.toList, x.isAlphanum = false := by
  rw [← Bool.not_eq_true, isScheme_iff]
  simp only [not_and_or, not_not, not_forall, Bool.not_eq_true, exists_prop]

theorem mem_flaws_iff {f : Flaw} : f ∈ c.flaws files ↔ f.Of c files := by
  unfold flaws settingFlaws
  constructor
  · intro h
    simp only [List.mem_append] at h
    rcases h with ((h | h) | h) | h
    · split at h
      · cases h
      · next hd =>
        obtain rfl := List.mem_singleton.1 h
        exact .noRepository (by simpa using hd)
    · split at h
      · next he =>
        obtain rfl := List.mem_singleton.1 h
        exact .emptySeparator (by simpa using he)
      · cases h
    · obtain ⟨s, hs, rfl⟩ := List.mem_map.1 h
      obtain ⟨hk, hs⟩ := List.mem_filter.1 hs
      exact .badScheme hk (not_isScheme_iff.1 (by simpa using hs))
    · split at h
      · cases h
      · next he =>
        obtain rfl := List.mem_singleton.1 h
        exact .noWorkingDir he
  · intro h
    simp only [List.mem_append]
    cases h with
    | noRepository h => simp [h]
    | emptySeparator h => simp [h]
    | badScheme hk h =>
      exact .inl (.inr (List.mem_map.2 ⟨_, List.mem_filter.2 ⟨hk, by simp [not_isScheme_iff.2 h]⟩, rfl⟩))
    | noWorkingDir h => simp [h]

theorem nodup_flaws (h : c.roots.Distinct) : (c.flaws files).Nodup := by
  have hschemes : ((c.roots.keys.filter fun s => !isScheme s).map Flaw.badScheme).Nodup :=
    (h.filter _).map fun _ _ he => Flaw.badScheme.inj he
  have hsettings : (c.settingFlaws files).Nodup := by
    unfold settingFlaws
    split <;> split <;> simp [hschemes]
  unfold flaws
  split
  · simpa using hsettings
  · refine List.nodup_append.2 ⟨hsettings, List.nodup_singleton _, ?_⟩
    simp only [settingFlaws, List.mem_append, List.mem_map, List.mem_singleton]
    rintro f hf _ rfl rfl
    rcases hf with (hf | hf) | ⟨_, -, hf⟩
    · split at hf <;> simp at hf
    · split at hf <;> simp at hf
    · cases hf

theorem map_settingFlaws (c : Config) (files : FileTree) :
    (c.settingFlaws files).map (Flaw.text c) = c.problems files := by
  rw [settingFlaws, problems, List.map_append, List.map_append, List.map_map]
  congr 2
  · split <;> rfl
  · split <;> rfl

theorem validate_eq (c : Config) (files : FileTree) : c.validate files =
    (c.settle ((c.flaws files).map (Flaw.text c)), (FileTree.makeDirectories c.effectiveWorkingDir files).2) := by
  unfold validate flaws
  rcases FileTree.makeDirectories c.effectiveWorkingDir files with ⟨e | _, t⟩ <;>
    dsimp only <;> rw [List.map_append, map_settingFlaws]
  · rfl
  · rw [List.map_nil, List.append_nil]

inductive Verdict (c : Config) (files : FileTree) : Except ConfigError Config → Prop
  | accepted (h : ∀ f, ¬ Flaw.Of c files f) : Verdict c files (.ok c)
  | refused {found : List Flaw} {reasons : List String} (h : found ≠ []) (hf : ∀ f, f ∈ found ↔ f.Of c files)
    (hn : found.Nodup) (hp : reasons.Perm (found.map (Flaw.text c))) (hs : reasons.Pairwise (· ≤ ·))
    (ht : (ConfigError.invalid reasons).message = "configuration validation failed: " ++ "; ".intercalate reasons) :
    Verdict c files (.error (.invalid reasons))

theorem pairwise_mergeSort (l : List String) : (l.mergeSort (· ≤ ·)).Pairwise (· ≤ ·) := by
  have htrans (a b c : String) (hab : decide (a ≤ b) = true) (hbc : decide (b ≤ c) = true) : decide (a ≤ c) = true := by
    simpa using String.le_trans (of_decide_eq_true hab) (of_decide_eq_true hbc)
  have htotal (a b : String) : (decide (a ≤ b) || decide (b ≤ a)) = true := by
    simpa using String.le_total a b
  simpa using List.pairwise_mergeSort htrans htotal l

theorem verdict_validate (hd : c.roots.Distinct) : c.Verdict files (c.validate files).1 := by
  rw [validate_eq]
  dsimp only
  by_cases h : c.flaws files = []
  · rw [h]
    exact .accepted fun f hf => by simpa [h] using mem_flaws_iff.2 hf
  · rw [settle_eq_error_iff.2 ⟨by simpa using h, rfl⟩]
    exact .refused h (fun f => mem_flaws_iff) (nodup_flaws hd) (List.mergeSort_perm _ _) (pairwise_mergeSort _) rfl

theorem mergeSort_eq_of_perm {l l' : List String} (h : l.Perm l') :
    l.mergeSort (· ≤ ·) = l'.mergeSort (· ≤ ·) := by
  have hperm := (List.mergeSort_perm l (· ≤ ·)).trans (h.trans (List.mergeSort_perm l' (· ≤ ·)).symm)
  exact hperm.eq_of_pairwise (fun _ _ _ _ => String.le_antisymm) (pairwise_mergeSort l) (pairwise_mergeSort l')

def reordered (c : Config) (entries : List (String × String)) : Config := { c with roots := ⟨entries⟩ }

theorem flaws_reordered (h : entries.Perm c.roots.toList) :
    ((c.reordered entries).flaws files).Perm (c.flaws files) := by
  have hkeys : (c.reordered entries).roots.keys.Perm c.roots.keys := h.map Prod.fst
  exact (((hkeys.filter _).map _).append_left _).append_right _

/-- Neither what is said nor what is done depends on the order of the storage areas. -/
theorem validate_reordered (h : entries.Perm c.roots.toList) :
    ((c.reordered entries).validate files).2 = (c.validate files).2 ∧
      ∀ e, ((c.reordered entries).validate files).1 = .error e ↔ (c.validate files).1 = .error e := by
  have hperm : (((c.reordered entries).flaws files).map (Flaw.text (c.reordered entries))).Perm
      ((c.flaws files).map (Flaw.text c)) := by
    have htext : Flaw.text (c.reordered entries) = Flaw.text c := by
      funext f
      cases f <;> rfl
    rw [htext]
    exact (flaws_reordered h).map _
  rw [validate_eq, validate_eq]
  refine ⟨rfl, fun e => ?_⟩
  rw [settle_eq_error_iff, settle_eq_error_iff, mergeSort_eq_of_perm hperm, Ne, Ne, ← List.length_eq_zero_iff,
    hperm.length_eq, List.length_eq_zero_iff]

structure Fit (c : Config) (files : FileTree) : Prop where
  repository : files.holdsDirectory c.repository = true
  separator : c.effectiveSeparator ≠ ""
  schemes : ∀ scheme ∈ c.roots.keys, scheme ≠ "" ∧ scheme ≠ "file" ∧ ∀ x ∈ scheme.toList, x.isAlphanum = true
  workingDir : files.Creatable c.effectiveWorkingDir

/-- Fit configurations are those without flaws, unless the working directory is spelled in a way that
creating directories gets wrong. -/
theorem fit_iff (hs : files.Sound) (hne : c.effectiveWorkingDir ≠ "")
    (hdot : Path.EndsInDot c.effectiveWorkingDir → files.holdsDirectory c.effectiveWorkingDir = true) :
    c.Fit files ↔ ∀ f, ¬ Flaw.Of c files f := by
  constructor
  · rintro ⟨hrepository, hseparator, hschemes, hwd⟩ f hf
    obtain ⟨t, ht⟩ := (FileTree.makeDirectories_iff hs hne hdot).2 hwd
    cases hf with
    | noRepository h => simp [hrepository] at h
    | emptySeparator h => exact hseparator h
    | badScheme hk h =>
      have hgood := isScheme_iff.2 (hschemes _ hk)
      simp [not_isScheme_iff.2 h] at hgood
    | noWorkingDir h => simp [ht] at h
  · intro h
    refine ⟨?_, fun he => h _ (.emptySeparator he), fun scheme hk => isScheme_iff.1 ?_, ?_⟩
    · by_contra hd
      exact h _ (.noRepository (by simpa using hd))
    · by_contra hb
      exact h _ (.badScheme hk (not_isScheme_iff.1 (by simpa using hb)))
    · refine (FileTree.makeDirectories_iff hs hne hdot).1 ?_
      cases hm : FileTree.makeDirectories c.effectiveWorkingDir files with
      | mk r t =>
        cases r with
        | ok _ => exact ⟨t, rfl⟩
        | error e => exact (h _ (.noWorkingDir (by rw [hm]))).elim

theorem validate_eq_ok_iff : (c.validate files).1 = .ok c ↔ ∀ f, ¬ Flaw.Of c files f := by
  rw [validate_eq, settle_eq_ok_iff, List.map_eq_nil_iff, List.eq_nil_iff_forall_not_mem]
  simp only [mem_flaws_iff, and_true]

/-- A relative path is put behind the directory, an absolute one stands for itself. -/
def Anchored (base p p' : String) : Prop := p' = if Path.isAbsolute p then p else Path.join base p

structure Based (base : String) (c c' : Config) : Prop where
  repository : Anchored base c.repository c'.repository
  workingDir : Option.Rel (Anchored base) c.workingDir c'.workingDir
  roots : List.Forall₂ (fun e e' => e'.1 = e.1 ∧ Anchored base e.2 e'.2) c.roots.toList c'.roots.toList
  logLevel_eq : c'.logLevel = c.logLevel
  separator_eq : c'.separator = c.separator

theorem based_rebase (base : String) (c : Config) : Based base c (c.rebase base) := by
  have hjoin (p : String) : Anchored base p (Path.join base p) := by
    unfold Anchored
    split
    · next ha => simp [Path.join, ha]
    · rfl
  refine ⟨hjoin _, ?_, ?_, rfl, rfl⟩
  · rw [rebase]
    cases c.workingDir with
    | none => exact .none
    | some wd => exact .some (hjoin wd)
  · exact List.forall₂_map_right_iff.2 (List.forall₂_same.2 fun e _ => ⟨rfl, hjoin e.2⟩)

/-- What validating says about a configuration `c`, with its storage areas in the order in which `d` has them. -/
structure Decides (c d : Config) (files : FileTree) : Prop where
  verdict : d.Verdict files (d.validate files).1
  ok_iff_fit : files.Sound → d.effectiveWorkingDir ≠ "" →
    (Path.EndsInDot d.effectiveWorkingDir → files.holdsDirectory d.effectiveWorkingDir = true) →
    ((d.validate files).1 = .ok d ↔ d.Fit files)
  error_iff : ∀ e, (d.validate files).1 = .error e ↔ (c.validate files).1 = .error e
  files_eq : (d.validate files).2 = (c.validate files).2

theorem decides (hd : c.roots.Distinct) (h : entries.Perm c.roots.toList) : Decides c (c.reordered entries) files := by
  obtain ⟨hfiles, herror⟩ : ((c.reordered entries).validate files).2 = (c.validate files).2 ∧ _ := validate_reordered h
  have hdistinct : (c.reordered entries).roots.Distinct := (h.map Prod.fst).nodup_iff.2 hd
  exact ⟨verdict_validate hdistinct, fun hs hne hdot => validate_eq_ok_iff.trans (fit_iff hs hne hdot).symm, herror,
    hfiles⟩

/-- A configuration that can be read is accepted or refused for its flaws, whatever the order of its storage
areas, with its paths put behind the directory of its file. -/
theorem validation_decides (configPath : String) (files : FileTree) :
    (∀ e, load files configPath = .error e → loadAndValidate configPath files = (.error e, files)) ∧
      ∀ c, load files configPath = .ok c → ∃ base, Path.parent? configPath = some base ∧
        Based base c (c.rebase base) ∧ loadAndValidate configPath files = (c.rebase base).validate files ∧
        ∀ entries, entries.Perm c.roots.toList → Decides (c.rebase base) ((c.reordered entries).rebase base) files := by
  refine ⟨fun e he => by rw [loadAndValidate_eq, he], fun c hc => ?_⟩
  obtain ⟨base, hbase⟩ := exists_parent?_of_load hc
  have hdistinct : (c.rebase base).roots.Distinct := by
    have hkeys : (c.rebase base).roots.keys = c.roots.keys := by simp [OrderedMap.keys, rebase]
    rw [OrderedMap.Distinct, hkeys]
    exact distinct_of_load hc
  refine ⟨base, hbase, based_rebase base c, by rw [loadAndValidate_eq, hc, hbase]; rfl, fun entries h => ?_⟩
  exact decides hdistinct (h.map fun e => (e.1, Path.join base e.2))

def withAreas : Config := ⟨"tools", some "out/work", ⟨[("hdfs", "data"), ("s3", "/mnt")]⟩, none, none⟩

def besideTools (text : String) : FileTree :=
  ⟨⟨[(["conf"], .directory), (["conf", "tools"], .directory), (["conf", "pipewrap.yaml"], .file (Text.encode text))]⟩, []⟩

theorem sound_besideTools (text : String) : (besideTools text).Sound :=
  FileTree.sound_of_entries (by
    intro e he
    simp only [besideTools, List.mem_cons, List.not_mem_nil, or_false] at he
    rcases he with rfl | rfl | rfl <;> rfl) rfl

def areasText : String :=
  "repository: tools\nworking_dir: out/work\nstorage:\n  remotes:\n    hdfs: data\n    s3: /mnt\n"

theorem validation_decides_areas :
    load (besideTools areasText) "conf/pipewrap.yaml" = .ok withAreas ∧
      Based "conf" withAreas
        ⟨"conf/tools", some "conf/out/work", ⟨[("hdfs", "conf/data"), ("s3", "/mnt")]⟩, none, none⟩ ∧
      Fit ⟨"conf/tools", some "conf/out/work", ⟨[("s3", "/mnt"), ("hdfs", "conf/data")]⟩, none, none⟩
        (besideTools areasText) := by
  have hload : load (besideTools areasText) "conf/pipewrap.yaml" = .ok withAreas := by decide +kernel
  obtain ⟨base, hbase, hbased, -, hdecides⟩ :=
    (validation_decides "conf/pipewrap.yaml" (besideTools areasText)).2 _ hload
  have hparent : Path.parent? "conf/pipewrap.yaml" = some "conf" := by decide +kernel
  obtain rfl := Option.some.inj (hbase.symm.trans hparent)
  have hrebase : withAreas.rebase "conf" =
      ⟨"conf/tools", some "conf/out/work", ⟨[("hdfs", "conf/data"), ("s3", "/mnt")]⟩, none, none⟩ := by decide +kernel
  rw [hrebase] at hbased
  refine ⟨hload, hbased, ?_⟩
  have hreordered : (withAreas.reordered [("s3", "/mnt"), ("hdfs", "data")]).rebase "conf" =
      ⟨"conf/tools", some "conf/out/work", ⟨[("s3", "/mnt"), ("hdfs", "conf/data")]⟩, none, none⟩ := by decide +kernel
  have hfit := (hdecides [("s3", "/mnt"), ("hdfs", "data")] (by decide)).ok_iff_fit (sound_besideTools areasText)
  rw [hreordered] at hfit
  have hdot : ¬ Path.EndsInDot "conf/out/work" := by
    rintro ⟨front, k, h⟩
    have hmem : ['.'] ∈ Path.slices "conf/out/work" := by rw [h]; simp
    exact absurd hmem (by decide +kernel)
  exact (hfit (by decide) fun h => absurd h hdot).1 (by decide +kernel)

def dottedText : String := "repository: tools\nworking_dir: work/.\n"

/-- A directory that is spelled with a dot at its end is not created, although it could be. -/
theorem validation_refuses_dotted :
    (loadAndValidate "conf/pipewrap.yaml" (besideTools dottedText)).1 =
        .error (.invalid ["cannot create working directory 'conf/work/.': No such file or directory (os error 2)"]) ∧
      (besideTools dottedText).Sound ∧
      load (besideTools dottedText) "conf/pipewrap.yaml" = .ok ⟨"tools", some "work/.", ∅, none, none⟩ ∧
      Fit (rebase ⟨"tools", some "work/.", ∅, none, none⟩ "conf") (besideTools dottedText) := by
  refine ⟨by decide +kernel, sound_besideTools _, by decide +kernel, by decide +kernel, by decide +kernel, ?_, ?_⟩
  · intro scheme hk
    cases hk
  · exact ⟨_, _, FileTree.makeDirectory_adds "conf/work" _, by decide +kernel⟩

end ToolPipeline.Config
