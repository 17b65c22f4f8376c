import ToolPipeline.Proofs.FileTree.Placing

set_option autoImplicit false

/-!
What operations on a path that is joined to a directory touch. As long as the path is relative and goes
through no two dots, they change nothing outside the directory but what is missing on the way to it.
-/

namespace ToolPipeline.FileTree

variable {t t' : FileTree} {l d : Location} {base p q : String} {given given' : Bytes → Prop} {b : Bytes}

/-- The tree changes within the directory `base` only: files there get contents that are `given`, and
directories are created there or on the way there. -/
def ChangesWithin (base : String) (given : Bytes → Prop) (t t' : FileTree) : Prop := ∀ l,
  t'.entry? l = t.entry? l ∨
    t.entry? l = none ∧ t'.entry? l = some .directory ∧ (t'.Towards base l ∨ t'.Below base l) ∨
      t'.Below base l ∧ ∃ b, given b ∧ t'.entry? l = some (.file b)

/-- What a file in the directory `base` held before the tree `t` became `t'`, or what is left of a file
that was emptied. -/
def HeldBelow (base : String) (t t' : FileTree) (b : Bytes) : Prop :=
  b = [] ∨ ∃ l, t'.Below base l ∧ t.entry? l = some (.file b)

theorem AddsDirectories.changesWithin (h : AddsDirectories (Path.above (Path.join base p)) t t')
    (hp : Path.isAbsolute p = false) (hu : .up ∉ Path.components p) (given : Bytes → Prop) :
    ChangesWithin base given t t' := by
  intro l
  rcases h.entries l with hl | ⟨hn, hd, q, hq, hl⟩
  · exact .inl hl
  · refine .inr (.inl ⟨hn, hd, towards_or_below hp hu hq hl ?_⟩)
    rintro rfl
    cases hn

theorem ChangesWithin.put (h : ChangesWithin base given t t') (hp : Path.isAbsolute p = false)
    (hu : .up ∉ Path.components p) (hw : t'.writable (Path.join base p) = .ok (some d)) (hb : given b) :
    ChangesWithin base given t (t'.put d (.file b)) := by
  have hd := ne_nil_of_writable hw
  have hext := extends_put_file hw b
  have hself := get_put_self (t := t') hd (.file b)
  intro l
  by_cases hdl : d = l
  · subst hdl
    exact .inr (.inr ⟨below_of_locate hp hu (locate_of_writable hw hext (by rw [hself]; rfl)), b, hb, hself⟩)
  · rw [get_put hd, if_neg hdl]
    rcases h l with hl | ⟨hn, hdir, hway⟩ | ⟨hl, hfile⟩
    · exact .inl hl
    · exact .inr (.inl ⟨hn, hdir, hway.imp (·.extends_ hext) (·.extends_ hext)⟩)
    · exact .inr (.inr ⟨hl.extends_ hext, hfile⟩)

theorem makeParent_within (base : String) (hp : Path.isAbsolute p = false) (hu : .up ∉ Path.components p)
    (given : Bytes → Prop) (t : FileTree) : ChangesWithin base given t (makeParent (Path.join base p) t).2 :=
  (makeParent_adds _ t).changesWithin hp hu given

theorem putFile_within (hp : Path.isAbsolute p = false) (hu : .up ∉ Path.components p) (b : Bytes) (t : FileTree) :
    ChangesWithin base (· = b) t (putFile (Path.join base p) b t).2 := by
  have hm := makeParent_within base hp hu (· = b) t
  rw [putFile, bind_apply]
  generalize makeParent (Path.join base p) t = r at hm ⊢
  obtain ⟨e | _, t1⟩ := r
  · exact hm
  · dsimp only
    rw [write_apply]
    rcases hw : t1.writable (Path.join base p) with e | _ | d
    · exact hm
    · exact hm
    · exact hm.put hp hu hw rfl

/-- Placing a file is confined to the directory that its destination is joined to, and what arrives there
comes from the directory that its source is joined to. -/
theorem place_within (root base : String) (hq : Path.isAbsolute q = false) (hv : .up ∉ Path.components q)
    (hp : Path.isAbsolute p = false) (hu : .up ∉ Path.components p) (t : FileTree) :
    ChangesWithin base (HeldBelow root t (place (Path.join root q) (Path.join base p) t).2) t
      (place (Path.join root q) (Path.join base p) t).2 := by
  cases h : place (Path.join root q) (Path.join base p) t with
  | mk r t' =>
    dsimp only
    cases r with
    | error e => exact (addsDirectories_of_place h).changesWithin hp hu _
    | ok n =>
      obtain ⟨t1, hm, hcopy⟩ := place_eq_ok h
      have hadds := makeParent_adds (Path.join base p) t
      rw [hm] at hadds
      have hwithin := hadds.changesWithin hp hu (HeldBelow root t t')
      obtain ⟨l, b, hl, hb, hw⟩ := copy_eq_ok hcopy
      have hbelow : t'.Below root l := below_of_locate hq hv ((extends_of_copy hcopy).locate_eq hl)
      have hheld {c : Bytes} (hc : c = [] ∨ c = b) : HeldBelow root t t' c := by
        refine hc.imp_right fun hc => ⟨l, hbelow, ?_⟩
        rw [hc]
        exact hadds.get_of_ne hb (by simp)
      rcases hw with ⟨-, rfl⟩ | ⟨d, hw, rfl⟩
      · exact hwithin
      · exact hwithin.put hp hu hw (hheld (by split <;> simp))

theorem heldBelow_of_read (hp : Path.isAbsolute p = false) (hu : .up ∉ Path.components p)
    (h : t.read (Path.join base p) = .ok b) : HeldBelow base t t b := by
  unfold read at h
  rcases hl : t.lookup (Path.join base p) with e | c | _ | v <;> rw [hl] at h <;> cases h
  · obtain ⟨l, hl, he⟩ := lookup_eq_ok_iff.1 hl
    exact .inr ⟨l, below_of_locate hp hu hl, he⟩
  · exact .inl rfl

theorem below_of_holds (hp : Path.isAbsolute p = false) (hu : .up ∉ Path.components p)
    (h : t.holds (Path.join base p) = true) : ∃ l, t.Below base l ∧ (t.entry? l).isSome := by
  unfold holds at h
  cases he : t.lookup (Path.join base p) with
  | error e => rw [he] at h; cases h
  | ok e =>
    obtain ⟨l, hl, he⟩ := lookup_eq_ok_iff.1 he
    exact ⟨l, below_of_locate hp hu hl, by rw [he]; rfl⟩

end ToolPipeline.FileTree
