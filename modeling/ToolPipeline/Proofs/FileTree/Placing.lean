import ToolPipeline.Proofs.FileTree.Operations

set_option autoImplicit false

/-!
Copying a file to a place whose directory is created first, which is how files are fetched and published.
-/

namespace ToolPipeline.FileTree

variable {t t' u : FileTree} {l d m : Location} {p q source destination : String} {b c : Bytes}

def SameFile (t : FileTree) (p q : String) : Prop := ∃ l, t.locate p = .ok l ∧ t.locate q = .ok l

theorem not_sameFile (hp : t.locate p = .ok l) (hq : t.locate q = .ok m) (hlm : l ≠ m) : ¬ t.SameFile p q := by
  rintro ⟨x, hx, hx'⟩
  cases hp.symm.trans hx
  cases hq.symm.trans hx'
  exact hlm rfl

def place (source destination : String) : FileAction Nat := do
  makeParent destination
  copy source destination

def putFile (p : String) (b : Bytes) : FileAction Unit := do
  makeParent p
  write p b

/-- What is left when the file at `l`, which held `b`, was copied to `d`. -/
structure Placed (source destination : String) (l d : Location) (b : Bytes) (t t' : FileTree) : Prop where
  source_eq : t'.locate source = .ok l
  destination_eq : t'.locate destination = .ok d
  content_eq : ∀ e, t.lookup source = .ok e → e = .file b
  /-- A file is emptied when it is copied onto itself, and a device swallows what it is given. -/
  arrived : t'.entry? d = some (.file (if d = l then [] else b)) ∨
    d ≠ l ∧ ∃ v, t.entry? d = some (.device v) ∧ t'.entry? d = some (.device v)
  kept : d ≠ l → t'.entry? l = some (.file b)
  others : ∀ m, m ≠ d → t'.entry? m = t.entry? m ∨ t.entry? m = none ∧ t'.entry? m = some .directory

theorem place_eq_ok {n : Nat} (h : place source destination t = (.ok n, t')) :
    ∃ t1, makeParent destination t = (.ok (), t1) ∧ copy source destination t1 = (.ok n, t') := by
  rw [place, FileTree.bind_apply] at h
  rcases hm : makeParent destination t with ⟨e | _, t1⟩
  · rw [hm] at h
    cases h
  · rw [hm] at h
    exact ⟨t1, rfl, h⟩

theorem addsDirectories_of_place {e : FileError} (h : place source destination t = (.error e, t')) :
    AddsDirectories (Path.above destination) t t' := by
  rw [place, FileTree.bind_apply] at h
  rcases hm : makeParent destination t with ⟨e | _, t1⟩ <;> rw [hm] at h
  · cases h
    exact addsDirectories_of_makeParent hm
  · rw [copy_eq_error h]
    exact addsDirectories_of_makeParent hm

theorem addsDirectories_of_putFile {e : FileError} (h : putFile p b t = (.error e, t')) :
    AddsDirectories (Path.above p) t t' := by
  rw [putFile, FileTree.bind_apply] at h
  rcases hm : makeParent p t with ⟨e | _, t1⟩ <;> rw [hm] at h
  · cases h
    exact addsDirectories_of_makeParent hm
  · dsimp only at h
    rw [write_apply] at h
    rcases hw : t1.writable p with e | _ | d <;> rw [hw] at h <;> cases h
    exact addsDirectories_of_makeParent hm

theorem placed_of_place {n : Nat} (h : place source destination t = (.ok n, t')) :
    ∃ l d b, Placed source destination l d b t t' := by
  obtain ⟨t1, hm, hcopy⟩ := place_eq_ok h
  have hadds := addsDirectories_of_makeParent hm
  obtain ⟨l, b, hl, hb, hw⟩ := copy_eq_ok hcopy
  have hcontent (e : Entry) (he : t.lookup source = .ok e) : e = .file b := by
    obtain ⟨l', hl', he⟩ := lookup_eq_ok_iff.1 he
    cases (hadds.extends_.locate_eq hl').symm.trans hl
    exact Option.some.inj ((hadds.get_eq he).symm.trans hb)
  have hothers (m : Location) := (hadds.entries m).imp_right fun he => And.intro he.1 he.2.1
  -- The copy goes to a device, or to a place for a file.
  rcases hw with ⟨hw, rfl⟩ | ⟨d, hw, rfl⟩
  · obtain ⟨v, hv⟩ := writable_eq_none hw
    obtain ⟨d, hd, hv⟩ := lookup_eq_ok_iff.1 hv
    have hdl : d ≠ l := by
      rintro rfl
      cases hb.symm.trans hv
    exact ⟨l, d, b, hl, hd, hcontent, .inr ⟨hdl, v, hadds.get_of_ne hv (by simp), hv⟩, fun _ => hb,
      fun m _ => hothers m⟩
  · have hext := extends_put_file hw (if d = l then [] else b)
    have hput := get_put (t := t1) (ne_nil_of_writable hw) (.file (if d = l then [] else b))
    have hself := get_put_self (t := t1) (ne_nil_of_writable hw) (.file (if d = l then [] else b))
    refine ⟨l, d, b, hext.locate_eq hl, locate_of_writable hw hext (by rw [hself]; rfl), hcontent,
      .inl hself, fun hdl => ?_, fun m hm => ?_⟩
    · rw [hput, if_neg hdl]
      exact hb
    · rw [hput, if_neg (Ne.symm hm)]
      exact hothers m

/-- Placing a file keeps what is found at a path that does not lead to its destination. -/
theorem lookup_of_place {r : Except FileError Nat} {e : Entry} (h : place source destination t = (r, t'))
    (hp : ∀ x, t'.locate p = .ok x → t'.locate destination ≠ .ok x) (he : t.lookup p = .ok e) :
    t'.lookup p = .ok e := by
  cases r with
  | error cause => exact (addsDirectories_of_place h).lookup_eq he
  | ok n =>
    obtain ⟨l, d, b, hplaced⟩ := placed_of_place h
    obtain ⟨t1, hm, hcopy⟩ := place_eq_ok h
    have hadds := addsDirectories_of_makeParent hm
    obtain ⟨x, hx, he⟩ := lookup_eq_ok_iff.1 he
    have hx' := (extends_of_copy hcopy).locate_eq (hadds.extends_.locate_eq hx)
    have hxd : x ≠ d := fun hxd => hp x hx' (hxd ▸ hplaced.destination_eq)
    refine lookup_eq_ok_iff.2 ⟨x, hx', ?_⟩
    rcases hplaced.others x hxd with hsame | ⟨hn, -⟩
    · rw [hsame, he]
    · cases hn.symm.trans he

theorem placed_of_lookup {n : Nat} (hb : t.lookup source = .ok (.file b))
    (h : place source destination t = (.ok n, t')) : ∃ l d, Placed source destination l d b t t' := by
  obtain ⟨l, d, c, hplaced⟩ := placed_of_place h
  cases hplaced.content_eq _ hb
  exact ⟨l, d, hplaced⟩

theorem place_again {n : Nat} (h : place source destination t = (.ok n, t')) :
    ∃ k, place source destination t' = (.ok k, t') := by
  obtain ⟨t1, hm, hcopy⟩ := place_eq_ok h
  rw [place, FileTree.bind_apply, makeParent_of_extends hm (extends_of_copy hcopy)]
  exact copy_again hcopy

namespace Placed

theorem sameFile_iff (h : Placed source destination l d b t t') : t'.SameFile source destination ↔ d = l := by
  constructor
  · rintro ⟨m, hs, hd⟩
    cases h.source_eq.symm.trans hs
    cases h.destination_eq.symm.trans hd
    rfl
  · rintro rfl
    exact ⟨d, h.source_eq, h.destination_eq⟩

theorem lookup_source (h : Placed source destination l d b t t') :
    t'.lookup source = .ok (.file (if d = l then [] else b)) := by
  refine lookup_eq_ok_iff.2 ⟨l, h.source_eq, ?_⟩
  by_cases hdl : d = l
  · subst hdl
    exact h.arrived.resolve_right fun ha => ha.1 rfl
  · rw [if_neg hdl]
    exact h.kept hdl

theorem lookup_source_iff (h : Placed source destination l d b t t') :
    t'.lookup source = .ok (.file b) ↔ b = [] ∨ ¬ t'.SameFile source destination := by
  rw [h.lookup_source, h.sameFile_iff]
  by_cases hdl : d = l <;> simp [hdl, eq_comm]

theorem lookup_destination_iff (h : Placed source destination l d b t t') :
    t'.lookup destination = .ok (.file b) ↔
      (b = [] ∨ ¬ t'.SameFile source destination) ∧ ∀ v, t'.lookup destination ≠ .ok (.device v) := by
  have hd {e : Entry} (he : t'.entry? d = some e) : t'.lookup destination = .ok e :=
    lookup_eq_ok_iff.2 ⟨d, h.destination_eq, he⟩
  rw [h.sameFile_iff]
  rcases h.arrived with ha | ⟨hdl, v, -, ha⟩
  · rw [hd ha]
    by_cases hdl : d = l <;> simp [hdl, eq_comm]
  · rw [hd ha]
    simp

theorem content?_eq (h : Placed source destination l d b t t') (hm : t'.locate destination ≠ .ok m) :
    t'.content? m = t.content? m := by
  have hmd : m ≠ d := fun hmd => hm (hmd ▸ h.destination_eq)
  rcases h.others m hmd with he | ⟨hn, hd⟩
  · simp [content?, he]
  · simp [content?, hn, hd]

end Placed

end ToolPipeline.FileTree
