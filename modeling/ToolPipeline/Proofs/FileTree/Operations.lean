import ToolPipeline.FileTree.Operations
import ToolPipeline.Proofs.FileTree.Walk

set_option autoImplicit false

/-!
What operations on a tree leave behind. Creating directories adds directories and nothing else, writing
changes one place, and a copy empties its destination before the source is read.
-/

namespace ToolPipeline

theorem FileTree.bind_apply {ε α β : Type} (a : ExceptT ε (StateM FileTree) α)
    (f : α → ExceptT ε (StateM FileTree) β) (t : FileTree) :
    (a >>= f) t = match a t with
      | (.ok x, t) => f x t
      | (.error e, t) => (.error e, t) := by
  change (match a t with | (r, t) => ExceptT.bindCont f r t) = _
  rcases a t with ⟨_ | _, t⟩ <;> rfl

theorem FileAction.tryCatch_apply {α : Type} (a : FileAction α) (f : FileError → FileAction α) (t : FileTree) :
    (tryCatch a f) t = match a t with
      | (.ok x, t) => (.ok x, t)
      | (.error e, t) => f e t := by
  change (ExceptT.tryCatch a f) t = _
  unfold ExceptT.tryCatch ExceptT.mk
  simp only [bind, StateT.bind]
  rcases a t with ⟨_ | _, t⟩ <;> rfl

theorem FileTree.get_apply {ε : Type} (t : FileTree) :
    (get : ExceptT ε (StateM FileTree) FileTree) t = (.ok t, t) := rfl

theorem FileTree.set_apply {ε : Type} (u t : FileTree) :
    (set u : ExceptT ε (StateM FileTree) PUnit) t = (.ok (), u) := rfl

namespace FileTree

variable {t t' u : FileTree} {l m d : Location} {p source destination : String} {b c : Bytes}

/-- Directories were added in places where there was nothing, and each of them is at one of the paths. -/
structure AddsDirectories (paths : List String) (t t' : FileTree) : Prop where
  current_eq : t'.current = t.current
  entries : ∀ l, t'.entry? l = t.entry? l ∨
    t.entry? l = none ∧ t'.entry? l = some .directory ∧ ∃ p ∈ paths, t'.locate p = .ok l

namespace AddsDirectories

variable {paths paths' : List String}

theorem refl (paths : List String) (t : FileTree) : AddsDirectories paths t t := ⟨rfl, fun _ => .inl rfl⟩

theorem get_eq (h : AddsDirectories paths t t') {e : Entry} (he : t.entry? l = some e) :
    t'.entry? l = some e := by
  rcases h.entries l with hl | ⟨hn, -⟩
  · exact hl.trans he
  · cases hn.symm.trans he

theorem extends_ (h : AddsDirectories paths t t') : t.Extends t' := by
  refine ⟨h.current_eq, fun l => h.get_eq, fun l hl => ?_⟩
  obtain ⟨e, he⟩ := Option.isSome_iff_exists.1 hl
  rw [h.get_eq he]
  rfl

theorem get_of_ne (h : AddsDirectories paths t t') {e : Entry} (he : t'.entry? l = some e) (hd : e ≠ .directory) :
    t.entry? l = some e := by
  rcases h.entries l with hl | ⟨-, hl, -⟩
  · exact hl.symm.trans he
  · exact absurd (Option.some.inj (he.symm.trans hl)) hd

theorem content?_eq (h : AddsDirectories paths t t') (l : Location) : t'.content? l = t.content? l := by
  rcases h.entries l with hl | ⟨hn, hd, -⟩
  · simp [content?, hl]
  · simp [content?, hn, hd]

theorem mono (h : AddsDirectories paths t t') (hp : paths ⊆ paths') : AddsDirectories paths' t t' :=
  ⟨h.current_eq, fun l => (h.entries l).imp_right fun ⟨hn, hd, p, hpp, hl⟩ => ⟨hn, hd, p, hp hpp, hl⟩⟩

theorem trans (h : AddsDirectories paths t t') (h' : AddsDirectories paths t' u) : AddsDirectories paths t u := by
  refine ⟨h'.current_eq.trans h.current_eq, fun l => ?_⟩
  rcases h.entries l with hl | ⟨hn, hd, p, hp, hl⟩
  · rw [← hl]
    exact h'.entries l
  · exact .inr ⟨hn, h'.get_eq hd, p, hp, h'.extends_.locate_eq hl⟩

end AddsDirectories

theorem lookup_eq_ok_iff {e : Entry} : t.lookup p = .ok e ↔ ∃ l, t.locate p = .ok l ∧ t.entry? l = some e := by
  unfold lookup
  cases t.locate p with
  | error e => simp
  | ok l =>
    dsimp only
    cases h : t.entry? l <;> simp [h]

theorem holdsDirectory_iff : t.holdsDirectory p = true ↔ t.lookup p = .ok .directory := by
  unfold holdsDirectory
  cases t.lookup p <;> simp [Except.toOption]

theorem lookup_ne_device (h : t.holdsFile p = true) (v : Device) : t.lookup p ≠ .ok (.device v) := by
  intro hv
  rw [holdsFile, hv] at h
  cases h

theorem Extends.holdsDirectory_eq (h : t.Extends t') (hp : t.holdsDirectory p = true) :
    t'.holdsDirectory p = true := by
  rw [holdsDirectory_iff, lookup_eq_ok_iff] at hp ⊢
  obtain ⟨l, hl, hd⟩ := hp
  exact ⟨l, h.locate_eq hl, h.directory l hd⟩

theorem makeDirectory_apply (p : String) (t : FileTree) :
    makeDirectory p t = match t.target p with
      | .error e => (.error e, t)
      | .ok (.existing _) => (.error .exists, t)
      | .ok (.child dir name _) =>
        if (t.entry? (dir ++ [String.ofList name])).isSome then (.error .exists, t)
        else (.ok (), t.put (dir ++ [String.ofList name]) .directory) := by
  rw [makeDirectory, FileTree.bind_apply, FileTree.get_apply]
  dsimp only
  rcases t.target p with e | l | ⟨dir, name, slashes⟩
  · rfl
  · rfl
  · dsimp only
    split <;> rfl

theorem makeDirectory_error {e : FileError} (h : makeDirectory p t = (.error e, t')) : t' = t := by
  rw [makeDirectory_apply] at h
  split at h
  · cases h; rfl
  · cases h; rfl
  · split at h
    · cases h; rfl
    · cases h

theorem makeDirectory_eq_ok (h : makeDirectory p t = (.ok (), t')) :
    ∃ l, l ≠ [] ∧ t.entry? l = none ∧ t' = t.put l .directory ∧ t'.locate p = .ok l := by
  rw [makeDirectory_apply] at h
  split at h
  · cases h
  · cases h
  · next dir name slashes ht =>
    split at h
    · cases h
    · next hn =>
      cases h
      have hl : dir ++ [String.ofList name] ≠ [] := by simp
      have hput := get_put_self (t := t) hl .directory
      have hext : t.Extends (t.put (dir ++ [String.ofList name]) .directory) := by
        refine ⟨rfl, fun m hm => ?_, fun m hm => ?_⟩ <;> rw [get_put hl] <;> split
        · rfl
        · exact hm
        · rfl
        · exact hm
      refine ⟨_, hl, by simpa using hn, rfl, ?_⟩
      exact ((target_eq_child_iff.1 ht).extends_ hext).locate_eq (by rw [hput]; rfl) (.inr hput)

theorem makeDirectory_adds (p : String) (t : FileTree) : AddsDirectories [p] t (makeDirectory p t).2 := by
  cases h : makeDirectory p t with
  | mk r t' =>
    cases r with
    | error e =>
      obtain rfl := makeDirectory_error h
      exact .refl _ _
    | ok _ =>
      obtain ⟨l, hl, hn, rfl, hloc⟩ := makeDirectory_eq_ok h
      refine ⟨rfl, fun m => ?_⟩
      dsimp only
      rw [get_put hl]
      split
      · next hm =>
        subst hm
        exact .inr ⟨hn, rfl, p, List.mem_singleton_self p, hloc⟩
      · exact .inl rfl

theorem holdsDirectory_of_makeDirectory (h : makeDirectory p t = (.ok (), t')) : t'.holdsDirectory p = true := by
  obtain ⟨l, hl, -, rfl, hloc⟩ := makeDirectory_eq_ok h
  rw [holdsDirectory_iff, lookup_eq_ok_iff]
  exact ⟨l, hloc, get_put_self hl _⟩

theorem makeDirectory_of_holdsDirectory (h : t.holdsDirectory p = true) :
    makeDirectory p t = (.error .exists, t) := by
  rw [holdsDirectory_iff, lookup_eq_ok_iff] at h
  obtain ⟨l, hl, hd⟩ := h
  rw [makeDirectory_apply]
  rcases target_of_locate hl with ⟨m, ht⟩ | ⟨dir, name, slashes, ht, rfl⟩
  · rw [ht]
  · rw [target_eq_child_iff.2 ht]
    dsimp only
    rw [hd]
    rfl

def ensureDirectory (p : String) (t : FileTree) : Except FileError Unit × FileTree :=
  match makeDirectory p t with
  | (.ok (), t) => (.ok (), t)
  | (.error e, t) => if t.holdsDirectory p then (.ok (), t) else (.error e, t)

theorem ensureDirectory_adds (p : String) (t : FileTree) : AddsDirectories [p] t (ensureDirectory p t).2 := by
  have h := makeDirectory_adds p t
  unfold ensureDirectory
  generalize makeDirectory p t = r at h ⊢
  obtain ⟨e | _, t⟩ := r
  · dsimp only
    split <;> exact h
  · exact h

theorem holdsDirectory_of_ensureDirectory (h : ensureDirectory p t = (.ok (), t')) :
    t'.holdsDirectory p = true := by
  unfold ensureDirectory at h
  split at h
  · next hm => cases h; exact holdsDirectory_of_makeDirectory hm
  · split at h
    · next hd => cases h; exact hd
    · cases h

theorem ensureDirectory_of_holdsDirectory (h : t.holdsDirectory p = true) :
    ensureDirectory p t = (.ok (), t) := by
  simp [ensureDirectory, makeDirectory_of_holdsDirectory h, h]

theorem makeFirst_cons_apply (p : String) (rest : List String) (t : FileTree) :
    makeFirst (p :: rest) t =
      if p = "" then (.ok (), t)
      else if (makeDirectory p t).1 = .error .missing then
        match makeFirst rest t with
        | (.error e, t) => (.error e, t)
        | (.ok (), t) => ensureDirectory p t
      else ensureDirectory p t := by
  rw [makeFirst]
  by_cases hp : p = ""
  · simp [hp]
    rfl
  · rw [if_neg (by simpa using hp), if_neg hp, FileAction.tryCatch_apply]
    have ensured (t : FileTree) : (tryCatch (makeDirectory p) fun e => do
        if (← get).holdsDirectory p then pure () else throw e) t = ensureDirectory p t := by
      rw [FileAction.tryCatch_apply, ensureDirectory]
      rcases makeDirectory p t with ⟨e | _, t⟩
      · dsimp only
        rw [FileTree.bind_apply, FileTree.get_apply]
        dsimp only
        split <;> rfl
      · rfl
    cases hm : makeDirectory p t with
    | mk r t1 =>
      cases r with
      | ok _ => simp [ensureDirectory, hm]
      | error e =>
        obtain rfl := makeDirectory_error hm
        dsimp only
        by_cases he : e = .missing
        · rw [if_pos he, if_pos (by rw [he]), FileTree.bind_apply]
          rcases makeFirst rest t1 with ⟨e | _, t2⟩
          · rfl
          · exact ensured t2
        · rw [if_neg he, if_neg (by simpa using he), ensureDirectory, hm]
          rw [FileTree.bind_apply, FileTree.get_apply]
          dsimp only
          split <;> rfl

theorem makeFirst_adds (paths : List String) (t : FileTree) : AddsDirectories paths t (makeFirst paths t).2 := by
  induction paths with
  | nil => exact .refl _ t
  | cons p rest ih =>
    have hp (t : FileTree) : AddsDirectories (p :: rest) t (ensureDirectory p t).2 :=
      (ensureDirectory_adds p t).mono (by simp)
    rw [makeFirst_cons_apply]
    split
    · exact .refl _ t
    · split
      · generalize makeFirst rest t = r at ih ⊢
        obtain ⟨e | _, t1⟩ := r
        · exact ih.mono (List.subset_cons_self p rest)
        · exact (ih.mono (List.subset_cons_self p rest)).trans (hp t1)
      · exact hp t

theorem holdsDirectory_of_makeFirst {rest : List String} (h : makeFirst (p :: rest) t = (.ok (), t')) :
    p = "" ∨ t'.holdsDirectory p = true := by
  rw [makeFirst_cons_apply] at h
  split at h
  · next hp => exact .inl hp
  · right
    split at h
    · split at h
      · cases h
      · exact holdsDirectory_of_ensureDirectory h
    · exact holdsDirectory_of_ensureDirectory h

theorem makeFirst_of_holdsDirectory {rest : List String} (h : p = "" ∨ t.holdsDirectory p = true) :
    makeFirst (p :: rest) t = (.ok (), t) := by
  rw [makeFirst_cons_apply]
  split
  · rfl
  · next hp =>
    have hd := h.resolve_left hp
    rw [if_neg (by rw [makeDirectory_of_holdsDirectory hd]; simp), ensureDirectory_of_holdsDirectory hd]

theorem exists_ancestors_eq (p : String) : ∃ rest, Path.ancestors p = p :: rest := by
  unfold Path.ancestors
  split
  · exact ⟨_, rfl⟩
  · exact ⟨_, rfl⟩

theorem makeParent_adds (p : String) (t : FileTree) : AddsDirectories (Path.above p) t (makeParent p t).2 := by
  unfold makeParent Path.above
  cases Path.parent? p with
  | some dir => exact makeFirst_adds _ t
  | none => exact .refl _ t

theorem addsDirectories_of_makeParent {r : Except FileError Unit} (h : makeParent p t = (r, t')) :
    AddsDirectories (Path.above p) t t' := by
  have hadds := makeParent_adds p t
  rw [h] at hadds
  exact hadds

theorem AddsDirectories.lookup_eq {paths : List String} (h : AddsDirectories paths t t') {e : Entry}
    (he : t.lookup p = .ok e) : t'.lookup p = .ok e := by
  obtain ⟨l, hl, he⟩ := lookup_eq_ok_iff.1 he
  exact lookup_eq_ok_iff.2 ⟨l, h.extends_.locate_eq hl, h.get_eq he⟩

theorem makeParent_of_extends (h : makeParent p t = (.ok (), t')) (he : t'.Extends u) :
    makeParent p u = (.ok (), u) := by
  unfold makeParent at h ⊢
  cases hp : Path.parent? p with
  | none => rfl
  | some dir =>
    rw [hp] at h
    obtain ⟨rest, hr⟩ := exists_ancestors_eq dir
    dsimp only [makeDirectories] at h ⊢
    rw [hr] at h ⊢
    exact makeFirst_of_holdsDirectory ((holdsDirectory_of_makeFirst h).imp id he.holdsDirectory_eq)

theorem write_apply (p : String) (b : Bytes) (t : FileTree) :
    write p b t = match t.writable p with
      | .error e => (.error e, t)
      | .ok none => (.ok (), t)
      | .ok (some l) => (.ok (), t.put l (.file b)) := by
  rw [write, FileTree.bind_apply, FileTree.get_apply]
  dsimp only
  rcases t.writable p with e | _ | l <;> rfl

/-- Writing reaches a place for a file: its directory is there, and what stands there, if anything, is a file. -/
theorem writable_eq_some_iff : t.writable p = .ok (some l) ↔
    ∃ dir name, t.EndsIn p dir name false ∧ l = dir ++ [String.ofList name] ∧
      (t.entry? l = none ∨ ∃ b, t.entry? l = some (.file b)) := by
  unfold writable
  constructor
  · intro h
    rcases ht : t.target p with e | m | ⟨dir, name, slashes⟩
    · rw [ht] at h; cases h
    · rw [ht] at h; cases h
    · rw [ht] at h
      dsimp only at h
      split at h
      · cases h
      · next hs =>
        obtain rfl : slashes = false := by simpa using hs
        refine ⟨dir, name, target_eq_child_iff.1 ht, ?_⟩
        rcases he : t.entry? (dir ++ [String.ofList name]) with _ | b | _ | v <;> rw [he] at h <;> cases h
        · exact ⟨rfl, .inl he⟩
        · exact ⟨rfl, .inr ⟨b, he⟩⟩
  · rintro ⟨dir, name, ht, rfl, he⟩
    rw [target_eq_child_iff.2 ht]
    rcases he with he | ⟨b, he⟩ <;> simp [he]

theorem writable_eq_none (h : t.writable p = .ok none) : ∃ v, t.lookup p = .ok (.device v) := by
  unfold writable at h
  rcases ht : t.target p with e | m | ⟨dir, name, slashes⟩
  · rw [ht] at h; cases h
  · rw [ht] at h; cases h
  · rw [ht] at h
    dsimp only at h
    split at h
    · cases h
    · next hs =>
      obtain rfl : slashes = false := by simpa using hs
      rcases he : t.entry? (dir ++ [String.ofList name]) with _ | b | _ | v <;> rw [he] at h <;> cases h
      refine ⟨v, lookup_eq_ok_iff.2 ⟨_, ?_, he⟩⟩
      exact (target_eq_child_iff.1 ht).locate_eq (by rw [he]; rfl) (.inl rfl)

theorem ne_nil_of_writable (h : t.writable p = .ok (some l)) : l ≠ [] := by
  obtain ⟨dir, name, -, rfl, -⟩ := writable_eq_some_iff.1 h
  simp

theorem extends_put_file (h : t.writable p = .ok (some l)) (b : Bytes) : t.Extends (t.put l (.file b)) := by
  have hl := ne_nil_of_writable h
  obtain ⟨dir, name, -, -, he⟩ := writable_eq_some_iff.1 h
  refine ⟨rfl, fun m hm => ?_, fun m hm => ?_⟩
  · rw [get_put hl, if_neg]
    · exact hm
    · rintro rfl
      rcases he with he | ⟨c, he⟩ <;> cases hm.symm.trans he
  · rw [get_put hl]
    split
    · rfl
    · exact hm

theorem writable_of_extends (h : t.writable p = .ok (some l)) (he : t.Extends t')
    (hb : t'.entry? l = some (.file b)) : t'.writable p = .ok (some l) := by
  obtain ⟨dir, name, hends, hl, -⟩ := writable_eq_some_iff.1 h
  exact writable_eq_some_iff.2 ⟨dir, name, hends.extends_ he, hl, .inr ⟨b, hb⟩⟩

theorem locate_of_writable (h : t.writable p = .ok (some l)) (he : t.Extends t') (hp : (t'.entry? l).isSome) :
    t'.locate p = .ok l := by
  obtain ⟨dir, name, hends, rfl, -⟩ := writable_eq_some_iff.1 h
  exact (hends.extends_ he).locate_eq hp (.inl rfl)

theorem writable_put_file (h : t.writable p = .ok (some l)) (b : Bytes) :
    (t.put l (.file b)).writable p = .ok (some l) :=
  writable_of_extends h (extends_put_file h b) (get_put_self (ne_nil_of_writable h) _)

theorem read_of_lookup_file (h : t.lookup p = .ok (.file b)) : t.read p = .ok b := by
  rw [read, h]

theorem exists_read_eq_error (h : Path.parent? p = none) :
    ∃ e, t.read p = .error e := by
  obtain ⟨hnames, hroot⟩ := Path.names_of_parent? h
  unfold read
  cases hl : t.lookup p with
  | error e => exact ⟨e, rfl⟩
  | ok entry =>
    obtain ⟨l, hloc, he⟩ := lookup_eq_ok_iff.1 hl
    obtain ⟨hc, hw⟩ := locate_eq_ok_iff.1 hloc
    have ha : Path.isAbsolute p = true := by
      refine hroot.resolve_right ?_
      rintro rfl
      cases hc
    have hu : ['.', '.'] ∉ segmentsOf p := fun hm => by
      simpa using List.filter_eq_nil_iff.1 hnames _ hm
    have hl := eq_append_of_walk hw hu
    change l = _ ++ (Path.names p).map String.ofList at hl
    rw [hnames, start, if_pos ha] at hl
    rw [hl] at he
    cases he
    exact ⟨_, rfl⟩

/-- Copying a file: what arrives is the file, unless its place is that of the file itself, which has been
emptied by then. -/
theorem copy_file (hl : t.locate source = .ok l) (hb : t.entry? l = some (.file b)) :
    copy source destination t = match t.writable destination with
      | .error e => (.error e, t)
      | .ok none => (.ok b.length, t)
      | .ok (some d) =>
        (.ok (if d = l then [] else b).length, t.put d (.file (if d = l then [] else b))) := by
  have hs : t.lookup source = .ok (.file b) := lookup_eq_ok_iff.2 ⟨l, hl, hb⟩
  rw [copy, FileTree.bind_apply, FileTree.get_apply]
  dsimp only
  rw [hs]
  dsimp only
  rw [FileTree.bind_apply, write_apply]
  cases hw : t.writable destination with
  | error e => rfl
  | ok place =>
    cases place with
    | none =>
      dsimp only
      rw [FileTree.bind_apply, FileTree.get_apply]
      dsimp only
      rw [read_of_lookup_file hs]
      dsimp only
      rw [FileTree.bind_apply, write_apply, hw]
      rfl
    | some d =>
      have hd := ne_nil_of_writable hw
      -- The source is read when its destination, which may be the same file, has been emptied.
      have hs' : (t.put d (.file [])).lookup source = .ok (.file (if d = l then [] else b)) := by
        refine lookup_eq_ok_iff.2 ⟨l, (extends_put_file hw []).locate_eq hl, ?_⟩
        rw [get_put hd]
        split
        · rfl
        · exact hb
      dsimp only
      rw [FileTree.bind_apply, FileTree.get_apply]
      dsimp only
      rw [read_of_lookup_file hs']
      dsimp only
      rw [FileTree.bind_apply, write_apply, writable_put_file hw]
      dsimp only
      rw [put_put]
      rfl

theorem copy_of_not_file (destination : String) (h : ∀ b, t.lookup source ≠ .ok (.file b)) :
    ∃ e, copy source destination t = (.error e, t) := by
  rw [copy, FileTree.bind_apply, FileTree.get_apply]
  dsimp only
  rcases hs : t.lookup source with e | b | _ | v
  · exact ⟨e, rfl⟩
  · exact absurd hs (h b)
  · exact ⟨.notRegular, rfl⟩
  · exact ⟨.notRegular, rfl⟩

theorem copy_eq_ok {n : Nat} (h : copy source destination t = (.ok n, t')) :
    ∃ l b, t.locate source = .ok l ∧ t.entry? l = some (.file b) ∧
      (t.writable destination = .ok none ∧ t' = t ∨
        ∃ d, t.writable destination = .ok (some d) ∧ t' = t.put d (.file (if d = l then [] else b))) := by
  by_cases hs : ∃ b, t.lookup source = .ok (.file b)
  · obtain ⟨b, hs⟩ := hs
    obtain ⟨l, hl, hb⟩ := lookup_eq_ok_iff.1 hs
    rw [copy_file hl hb] at h
    refine ⟨l, b, hl, hb, ?_⟩
    rcases hw : t.writable destination with e | _ | d <;> rw [hw] at h <;> cases h
    · exact .inl ⟨rfl, rfl⟩
    · exact .inr ⟨d, rfl, rfl⟩
  · obtain ⟨e, he⟩ := copy_of_not_file destination fun b hb => hs ⟨b, hb⟩
    cases he.symm.trans h

theorem copy_eq_error {e : FileError} (h : copy source destination t = (.error e, t')) : t' = t := by
  by_cases hs : ∃ b, t.lookup source = .ok (.file b)
  · obtain ⟨b, hs⟩ := hs
    obtain ⟨l, hl, hb⟩ := lookup_eq_ok_iff.1 hs
    rw [copy_file hl hb] at h
    rcases hw : t.writable destination with e | _ | d <;> rw [hw] at h <;> cases h
    rfl
  · obtain ⟨e', he⟩ := copy_of_not_file destination fun b hb => hs ⟨b, hb⟩
    cases he.symm.trans h
    rfl

theorem extends_of_copy {n : Nat} (h : copy source destination t = (.ok n, t')) : t.Extends t' := by
  obtain ⟨l, b, -, -, ⟨-, rfl⟩ | ⟨d, hw, rfl⟩⟩ := copy_eq_ok h
  · exact .refl _
  · exact extends_put_file hw _

/-- Copying a second time changes nothing, not even when the first time has emptied the file. -/
theorem copy_again {n : Nat} (h : copy source destination t = (.ok n, t')) :
    ∃ k, copy source destination t' = (.ok k, t') := by
  obtain ⟨l, b, hl, hb, ⟨hw, rfl⟩ | ⟨d, hw, rfl⟩⟩ := copy_eq_ok h
  · rw [copy_file hl hb, hw]
    exact ⟨_, rfl⟩
  · have hd := ne_nil_of_writable hw
    have hl' := (extends_put_file hw (if d = l then [] else b)).locate_eq hl
    have hb' : entry? (t.put d (.file (if d = l then [] else b))) l = some (.file (if d = l then [] else b)) := by
      rw [get_put hd]
      split
      · rfl
      · exact hb
    rw [copy_file hl' hb', writable_put_file hw]
    refine ⟨_, congrArg (Prod.mk _) (Eq.trans ?_ (put_eq_self hd (get_put_self hd _)))⟩
    split <;> rfl

end FileTree

end ToolPipeline
