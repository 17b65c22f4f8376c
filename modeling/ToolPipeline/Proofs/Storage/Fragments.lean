import ToolPipeline.Proofs.Storage.Directories

set_option autoImplicit false

/-!
Values that hold several references. Localized one by one and put together again, they have the same
number of fragments in the same order, so each local file is published under the reference it came from.
-/

namespace ToolPipeline

open Text (fragments fragments_empty fragments_intercalate intercalate_fragments_empty Whole apart_fragments)

variable {σ : Type}

theorem Action.forM_error {ι ε : Type} {f : ι → Action σ ε Unit} {items : List ι} {s : Session σ} {e : ε}
    (h : (items.forM f s).1 = .error e) : ∃ i ∈ items, ∃ u, (f i u).1 = .error e := by
  induction items generalizing s with
  | nil => cases h
  | cons i items ih =>
    rw [List.forM_eq_forM, List.forM_cons, Action.bind_apply] at h
    rcases hi : f i s with ⟨e' | _, u⟩ <;> rw [hi] at h
    · exact ⟨i, List.mem_cons_self, s, by rw [hi]; exact h⟩
    · obtain ⟨j, hj, u', hu⟩ := ih h
      exact ⟨j, List.mem_cons_of_mem _ hj, u', hu⟩

theorem StorageError.ofFileError_ne_invalidReference (name reference : String) (e : FileError) :
    ofFileError name e ≠ .invalidReference reference := by
  unfold ofFileError
  split <;> simp

theorem occurs_before_or_behind {c : Char} {sep a b x y : List Char} (hc : c ∉ sep)
    (h : a ++ c :: b = x ++ sep ++ y) :
    (∃ z, a = x ++ sep ++ z) ∨ ∃ z, x = a ++ c :: z ∧ b = z ++ sep ++ y := by
  rw [List.append_assoc] at h
  rcases List.append_eq_append_iff.1 h with ⟨z, rfl, hz⟩ | ⟨z, rfl, hz⟩
  · cases z with
    | nil =>
      cases sep with
      | nil => exact .inl ⟨[], by simp⟩
      | cons d sep =>
        rw [List.nil_append, List.cons_append, List.cons.injEq] at hz
        exact absurd (hz.1 ▸ List.mem_cons_self) hc
    | cons d z =>
      rw [List.cons_append, List.cons.injEq] at hz
      obtain ⟨rfl, rfl⟩ := hz
      exact .inr ⟨z, rfl, (List.append_assoc ..).symm⟩
  · rcases List.append_eq_append_iff.1 hz with ⟨w, rfl, -⟩ | ⟨w, rfl, hw⟩
    · exact .inl ⟨w, by simp⟩
    · cases w with
      | nil => exact .inl ⟨[], by simp⟩
      | cons d w =>
        rw [List.cons_append, List.cons.injEq] at hw
        exact absurd (hw.1 ▸ List.mem_append_right z List.mem_cons_self) hc

namespace Reference

variable {text : String} {r : Reference} {sep rest : List Char}

/-- Localizing a reference makes no separator and takes none away, as long as separators hold no slash. -/
theorem whole_localPath (hsep : '/' ∉ sep) (hr : parse text = .ok r) (h : Whole sep text.toList rest) :
    Whole sep r.localPath.toList rest := by
  cases parse_eq_ok_iff.1 hr with
  | plain => exact h
  | @machine path _ =>
    rw [String.toList_append] at h
    exact h.of_append
  | @remote scheme path slashes _ _ =>
    have hpath : Whole sep path.toList rest := by
      rw [String.toList_append] at h
      have hrest := h.of_append
      rw [String.toList_append] at hrest
      exact hrest.of_append
    intro x y hxy
    rw [localPath, String.toList_append, String.toList_append] at hxy ⊢
    have hxy' : scheme.toList ++ '/' :: (path.toList ++ rest) = x ++ sep ++ y := by simpa using hxy
    rcases occurs_before_or_behind hsep hxy' with ⟨z, hz⟩ | ⟨z, rfl, hz⟩
    · -- The scheme is also part of the text itself, where no separator begins.
      have hl := h x (z ++ ("://".toList ++ (List.replicate slashes '/' ++ path.toList) ++ rest)) (by
        rw [String.toList_append, String.toList_append, hz]
        simp)
      have hs := congrArg List.length hz
      simp only [String.toList_append, List.length_append] at hl hs
      have : "://".toList.length = 3 := rfl
      omega
    · have hl := hpath z y hz
      simp only [List.length_append, List.length_cons] at hl ⊢
      have : "/".toList.length = 1 := rfl
      omega

theorem localPath_ne_empty (hr : parse text = .ok r) : r.localPath ≠ "" := by
  cases parse_eq_ok_iff.1 hr with
  | plain _ hne => exact hne
  | machine hne => exact hne
  | remote _ _ hp => exact fun h => hp.ne_empty (String.append_eq_empty_iff.1 h).2

theorem localPath_of_single {c : Char} (hr : parse (String.ofList [c]) = .ok r) :
    r.localPath = String.ofList [c] := by
  have hc : Text.cut schemeMark [c] = none := by
    refine Text.cut_eq_none_iff.2 fun h => ?_
    have := h.length_le
    simp [schemeMark] at this
  unfold parse at hr
  rw [String.toList_ofList, hc] at hr
  dsimp only at hr
  split at hr <;> cases hr
  rfl

end Reference

namespace StorageRoots

variable {roots : StorageRoots} {reference l separator wd value v : String} {copy : Bool} {s t : Session σ}

def Localizes (roots : StorageRoots) (reference l : String) : Prop :=
  ∃ r p, Reference.parse reference = .ok r ∧ roots.resolve reference = .ok p ∧ l = r.localPath

theorem localizes_of_mapM {references paths : List String}
    (h : references.mapM (fun reference => roots.localize reference wd copy) s = (.ok paths, t)) :
    List.Forall₂ roots.Localizes references paths := by
  induction references generalizing paths s with
  | nil => cases h; exact .nil
  | cons reference references ih =>
    rw [List.mapM_cons, Action.bind_apply] at h
    rcases hl : roots.localize reference wd copy s with ⟨e | l, u⟩
    · rw [hl] at h
      cases h
    · rw [hl] at h
      dsimp only at h
      rw [Action.bind_apply] at h
      rcases hm : references.mapM (fun reference => roots.localize reference wd copy) u with ⟨e | paths, u'⟩
      · rw [hm] at h
        cases h
      · rw [hm] at h
        cases h
        exact .cons (localize_eq_ok hl) (ih hm)

theorem localizeAll_eq_ok (h : roots.storage.localizeAll separator wd copy value s = (.ok v, t)) :
    ∃ paths, (fragments separator value).mapM (fun reference => roots.localize reference wd copy) s =
      (.ok paths, t) ∧ v = separator.intercalate paths := by
  rw [Storage.localizeAll, Action.bind_apply] at h
  rcases hm : (fragments separator value).mapM (fun reference => roots.storage.localize reference wd copy) s with
    ⟨e | paths, u⟩
  · rw [hm] at h
    cases h
  · rw [hm] at h
    cases h
    exact ⟨paths, hm, rfl⟩

theorem fragments_of_localizes {paths : List String} (hsep : '/' ∉ separator.toList)
    (h : List.Forall₂ roots.Localizes (fragments separator value) paths) :
    fragments separator (separator.intercalate paths) = paths := by
  by_cases hs : separator = ""
  · -- Every fragment is a single character then, which is a path of this machine.
    subst hs
    have hp : fragments "" value = paths := by
      rw [fragments_empty] at h ⊢
      have heq : List.Forall₂ (fun c l => String.ofList [c] = l) value.toList paths := by
        refine (List.forall₂_map_left_iff.1 h).imp ?_
        rintro c _ ⟨r, -, hr, -, rfl⟩
        exact (Reference.localPath_of_single hr).symm
      exact List.forall₂_eq_eq_eq ▸ List.forall₂_map_left_iff.2 heq
    rw [← hp, intercalate_fragments_empty]
  · have hne : List.Forall₂ (fun l reference => l ≠ "" ∧ roots.Localizes reference l) paths
        (fragments separator value) := by
      refine List.Forall₂.flip (h.imp fun reference l hl => ⟨?_, hl⟩)
      obtain ⟨r, -, hr, -, rfl⟩ := hl
      exact Reference.localPath_ne_empty hr
    refine fragments_intercalate hs ((List.forall₂_and_left _ _).1 hne).1 ((apart_fragments hs value).congr ?_)
    rw [List.forall₂_map_left_iff, List.forall₂_map_right_iff]
    refine h.imp ?_
    rintro reference _ ⟨r, -, hr, -, rfl⟩ rest
    exact Reference.whole_localPath hsep hr

theorem delocalize_ne_invalidReference {l' : String} (h : roots.Localizes reference l) (wd' e : String) (u : Session σ) :
    (roots.delocalize l' reference wd' u).1 ≠ .error (.invalidReference e) := by
  obtain ⟨r, p, hr, hp, -⟩ := h
  cases r with
  | onMachine path => simp [delocalize_onMachine hr]
  | remote scheme path =>
    rcases delocalize_remote l' wd' hr hp u with ⟨_, _, _, -, he⟩ | ⟨c, name, _, -, he⟩ <;> rw [he]
    · simp
    · simpa using StorageError.ofFileError_ne_invalidReference name e c

/-- A value that was localized has a fragment for each fragment of the value, in the same order, and is
published fragment by fragment. -/
theorem localizeAll_fragments (hsep : '/' ∉ separator.toList)
    (h : roots.storage.localizeAll separator wd copy value s = (.ok v, t)) :
    (fragments separator value).mapM (fun reference => roots.localize reference wd copy) s =
        (.ok (fragments separator v), t) ∧
      (fragments separator v).length = (fragments separator value).length ∧
      ∀ (wd' : String) (u : Session σ),
        roots.storage.delocalizeAll separator wd' v value u =
          ((fragments separator v).zip (fragments separator value)).forM
            (fun p => roots.delocalize p.1 p.2 wd') u ∧
        ∀ e, (roots.storage.delocalizeAll separator wd' v value u).1 ≠ .error (.invalidReference e) := by
  obtain ⟨paths, hm, rfl⟩ := localizeAll_eq_ok h
  have hl := localizes_of_mapM hm
  rw [fragments_of_localizes hsep hl]
  refine ⟨hm, hl.length_eq.symm, fun wd' u => ?_⟩
  have hd : roots.storage.delocalizeAll separator wd' (separator.intercalate paths) value u =
      (paths.zip (fragments separator value)).forM (fun p => roots.delocalize p.1 p.2 wd') u := by
    unfold Storage.delocalizeAll
    rw [fragments_of_localizes hsep hl, if_neg (by simp [hl.length_eq])]
    rfl
  refine ⟨hd, fun e he => ?_⟩
  rw [hd] at he
  obtain ⟨p, hp, u', hu⟩ := Action.forM_error he
  have hpair := List.forall₂_zip (List.Forall₂.flip (R := fun l reference => roots.Localizes reference l) hl) hp
  exact delocalize_ne_invalidReference hpair wd' e u' hu

/-- The first separator overlaps with one that begins a character later, and empty fragments surround the others. -/
def overlapping : String := "..hdfs:///a...b..file://c...."

theorem localizeAll_fragments_overlapping :
    ∃ t, (single "data").storage.localizeAll ".." "work" false overlapping (.holding []) = (.ok "hdfs/a...b..c", t) ∧
      ["hdfs:///a", ".b", "file://c"].mapM (fun reference => (single "data").localize reference "work" false)
        (.holding []) = (.ok ["hdfs/a", ".b", "c"], t) ∧
      ∀ u : Session Unit, (single "data").storage.delocalizeAll ".." "work" "hdfs/a...b..c" overlapping u =
        [("hdfs/a", "hdfs:///a"), (".b", ".b"), ("c", "file://c")].forM
          (fun p => (single "data").delocalize p.1 p.2 "work") u := by
  have h : ((single "data").storage.localizeAll ".." "work" false overlapping (.holding [])).1 =
      .ok "hdfs/a...b..c" := by decide +kernel
  have hv : fragments ".." overlapping = ["hdfs:///a", ".b", "file://c"] := by decide +kernel
  have hl : fragments ".." "hdfs/a...b..c" = ["hdfs/a", ".b", "c"] := by decide +kernel
  obtain ⟨hm, -, hd⟩ := localizeAll_fragments (by decide) (Prod.ext h rfl)
  rw [hv, hl] at hm hd
  exact ⟨_, Prod.ext h rfl, hm, fun u => (hd "work" u).1⟩

end StorageRoots

end ToolPipeline
