import Mathlib.Data.List.TakeWhile
import ToolPipeline.FileTree.Walk
import ToolPipeline.Proofs.OrderedMap
import ToolPipeline.Proofs.Path

set_option autoImplicit false

/-!
The way along a path. `Leads` says what one segment does; from it follow that a path leads to the same
place in a tree that has grown, and that a path joined to a directory stays below the directory.
-/

namespace ToolPipeline.FileTree

variable {t t' u : FileTree} {l m n dir : Location} {p base : String} {seg name : List Char} {slashes : Bool}

@[simp] theorem get_nil (t : FileTree) : t.entry? [] = some .directory := rfl

theorem get_put (hl : l ≠ []) (e : Entry) (m : Location) :
    entry? (t.put l e) m = if l = m then some e else t.entry? m := by
  by_cases hm : m = []
  · subst hm
    rw [get_nil, if_neg hl, get_nil]
  · simp [put, entry?, hm]

theorem get_put_self (hl : l ≠ []) (e : Entry) : entry? (t.put l e) l = some e :=
  (get_put hl e l).trans (if_pos rfl)

theorem put_put (t : FileTree) (l : Location) (e f : Entry) : (t.put l e).put l f = t.put l f :=
  congrArg (FileTree.mk · t.current) (t.entries.insert_insert l e f)

theorem put_eq_self {e : Entry} (hl : l ≠ []) (h : t.entry? l = some e) : t.put l e = t := by
  have hg : t.entries.get? l = some e := by simpa [hl, entry?] using h
  rw [put, OrderedMap.insert_of_get? hg]

theorem isDirectoryAt_iff : t.isDirectoryAt l = true ↔ t.entry? l = some .directory := by
  simp [isDirectoryAt]

def IsName (seg : List Char) : Prop :=
  seg ≠ [] ∧ seg ≠ ['.'] ∧ seg ≠ ['.', '.'] ∧ Text.byteLength seg ≤ nameLimit

inductive Leads (t : FileTree) (l : Location) : List Char → Location → Prop
  | stay {seg : List Char} (h : seg = [] ∨ seg = ['.']) : Leads t l seg l
  | up : Leads t l ['.', '.'] l.dropLast
  | down {seg : List Char} (h : IsName seg) (he : (t.entry? (l ++ [String.ofList seg])).isSome) :
    Leads t l seg (l ++ [String.ofList seg])

theorem step_eq_ok_iff : t.step l seg = .ok m ↔ t.entry? l = some .directory ∧ t.Leads l seg m := by
  rw [← isDirectoryAt_iff]
  constructor
  · intro h
    simp only [step] at h
    split at h
    · cases h
    · next hd =>
      refine ⟨by simpa using hd, ?_⟩
      split at h
      · next hs => cases h; exact .stay (by simpa using hs)
      · next hs =>
        split at h
        · next hu =>
          cases h
          rw [show seg = ['.', '.'] by simpa using hu]
          exact .up
        · next hu =>
          split at h
          · cases h
          · next hn =>
            split at h
            · next he =>
              cases h
              simp only [Bool.or_eq_true, List.isEmpty_iff, beq_iff_eq, not_or] at hs hu
              exact .down ⟨hs.1, hs.2, hu, Nat.le_of_not_lt hn⟩ he
            · cases h
  · rintro ⟨hd, h⟩
    cases h with
    | stay h => rcases h with rfl | rfl <;> simp [step, hd]
    | up => simp [step, hd]
    | down h he =>
      obtain ⟨h1, h2, h3, h4⟩ := h
      simp [step, hd, h1, h2, h3, Nat.not_lt.2 h4, he]

theorem walk_cons_eq_ok_iff {segs : List (List Char)} :
    t.walk l (seg :: segs) = .ok n ↔ ∃ m, t.step l seg = .ok m ∧ t.walk m segs = .ok n := by
  rw [walk]
  cases t.step l seg <;> simp

theorem walk_append_eq_ok_iff {segs rest : List (List Char)} :
    t.walk l (segs ++ rest) = .ok n ↔ ∃ m, t.walk l segs = .ok m ∧ t.walk m rest = .ok n := by
  induction segs generalizing l with
  | nil => simp [walk]
  | cons seg segs ih =>
    rw [List.cons_append, walk_cons_eq_ok_iff]
    simp only [ih, walk_cons_eq_ok_iff]
    constructor
    · rintro ⟨a, ha, b, hb, hn⟩
      exact ⟨b, ⟨a, ha, hb⟩, hn⟩
    · rintro ⟨b, ⟨a, ha, hb⟩, hn⟩
      exact ⟨a, ha, b, hb, hn⟩

theorem walk_nil_iff : t.walk l [[]] = .ok m ↔ t.entry? l = some .directory ∧ m = l := by
  rw [walk_cons_eq_ok_iff]
  simp only [step_eq_ok_iff, walk, Except.ok.injEq]
  constructor
  · rintro ⟨_, ⟨hd, h⟩, rfl⟩
    cases h with
    | stay => exact ⟨hd, rfl⟩
    | down h => exact absurd rfl h.1
  · rintro ⟨hd, rfl⟩
    exact ⟨_, ⟨hd, .stay (.inl rfl)⟩, rfl⟩

theorem walk_replicate_iff {k : Nat} :
    t.walk l (List.replicate k []) = .ok m ↔ m = l ∧ (k ≠ 0 → t.entry? l = some .directory) := by
  induction k with
  | zero => simp [walk, eq_comm]
  | succ k ih =>
    rw [List.replicate_succ, ← List.singleton_append, walk_append_eq_ok_iff]
    constructor
    · rintro ⟨a, ha, hm⟩
      obtain ⟨hd, rfl⟩ := walk_nil_iff.1 ha
      exact ⟨(ih.1 hm).1, fun _ => hd⟩
    · rintro ⟨rfl, hd⟩
      exact ⟨m, walk_nil_iff.2 ⟨hd (by simp), rfl⟩, ih.2 ⟨rfl, fun _ => hd (by simp)⟩⟩

theorem directory_of_walk {segs : List (List Char)} (h : t.walk l segs = .ok m)
    (hd : segs ≠ [] ∨ t.entry? m = some .directory) : t.entry? l = some .directory := by
  cases segs with
  | nil => cases h; simpa using hd
  | cons seg segs =>
    obtain ⟨_, hs, -⟩ := walk_cons_eq_ok_iff.1 h
    exact (step_eq_ok_iff.1 hs).1

theorem eq_append_of_walk {segs : List (List Char)} (h : t.walk l segs = .ok m) (hu : ['.', '.'] ∉ segs) :
    m = l ++ (segs.filter fun seg => !(seg.isEmpty || seg == ['.'])).map String.ofList := by
  induction segs generalizing l with
  | nil => cases h; simp
  | cons seg segs ih =>
    obtain ⟨a, hs, hw⟩ := walk_cons_eq_ok_iff.1 h
    rw [List.mem_cons, not_or] at hu
    rw [ih hw hu.2]
    cases (step_eq_ok_iff.1 hs).2 with
    | stay hseg => rcases hseg with rfl | rfl <;> simp
    | up => exact absurd rfl hu.1
    | down hn =>
      obtain ⟨hne, hdot, -⟩ := hn
      simp [hne, hdot]

theorem prefix_of_walk {segs : List (List Char)} (h : t.walk l segs = .ok m) (hu : ['.', '.'] ∉ segs) :
    l <+: m := by
  rw [eq_append_of_walk h hu]
  exact List.prefix_append l _

/-- What there is stays, and directories stay directories. -/
structure Extends (t t' : FileTree) : Prop where
  current_eq : t'.current = t.current
  directory : ∀ l, t.entry? l = some .directory → t'.entry? l = some .directory
  present : ∀ l, (t.entry? l).isSome → (t'.entry? l).isSome

theorem Extends.refl (t : FileTree) : t.Extends t := ⟨rfl, fun _ => id, fun _ => id⟩

namespace Extends

theorem start_eq (h : t.Extends t') (p : String) : t'.start p = t.start p := by
  rw [start, start, h.current_eq]

theorem step_eq (h : t.Extends t') (hs : t.step l seg = .ok m) : t'.step l seg = .ok m := by
  obtain ⟨hd, hl⟩ := step_eq_ok_iff.1 hs
  refine step_eq_ok_iff.2 ⟨h.directory l hd, ?_⟩
  cases hl with
  | stay hl => exact .stay hl
  | up => exact .up
  | down hn he => exact .down hn (h.present _ he)

theorem walk_eq (h : t.Extends t') {segs : List (List Char)} (hw : t.walk l segs = .ok m) :
    t'.walk l segs = .ok m := by
  induction segs generalizing l with
  | nil => exact hw
  | cons seg segs ih =>
    obtain ⟨a, hs, hw⟩ := walk_cons_eq_ok_iff.1 hw
    exact walk_cons_eq_ok_iff.2 ⟨a, h.step_eq hs, ih hw⟩

end Extends

theorem locate_eq_ok_iff :
    t.locate p = .ok l ↔ checkPath p = .ok () ∧ t.walk (t.start p) (segmentsOf p) = .ok l := by
  unfold locate
  cases checkPath p <;> simp

theorem Extends.locate_eq (h : t.Extends t') (hl : t.locate p = .ok l) : t'.locate p = .ok l := by
  rw [locate_eq_ok_iff] at hl ⊢
  rw [h.start_eq]
  exact ⟨hl.1, h.walk_eq hl.2⟩

theorem exists_eq_append_replicate (segs : List (List Char)) :
    ∃ k, segs = (segs.reverse.dropWhile List.isEmpty).reverse ++ List.replicate k [] := by
  have h := congrArg List.reverse (List.takeWhile_append_dropWhile (p := List.isEmpty) (l := segs.reverse))
  rw [List.reverse_append, List.reverse_reverse] at h
  refine ⟨(segs.reverse.takeWhile List.isEmpty).length, h.symm.trans (congrArg _ ?_)⟩
  refine List.eq_replicate_iff.2 ⟨List.length_reverse, fun seg hs => ?_⟩
  simpa using List.mem_takeWhile_imp (List.mem_reverse.1 hs)

/-- Behind the last segment that says something there are only slashes. -/
theorem segments_cases (segs : List (List Char)) :
    (∃ k, segs = List.replicate k []) ∨
      ∃ front last k, last ≠ [] ∧ segs = front ++ last :: List.replicate k [] := by
  obtain ⟨k, hk⟩ := exists_eq_append_replicate segs
  cases hb : segs.reverse.dropWhile List.isEmpty with
  | nil =>
    rw [hb] at hk
    exact .inl ⟨k, hk⟩
  | cons last front =>
    have hl := List.head_dropWhile_not List.isEmpty (l := segs.reverse) (by simp [hb])
    rw [hb] at hk
    refine .inr ⟨front.reverse, last, k, by simpa [hb] using hl, by simpa using hk⟩

theorem dropWhile_reverse_of_split {front : List (List Char)} {last : List Char} {k : Nat} (hl : last ≠ []) :
    (front ++ last :: List.replicate k []).reverse.dropWhile List.isEmpty = last :: front.reverse := by
  rw [List.reverse_append, List.reverse_cons, List.reverse_replicate, List.append_assoc,
    List.dropWhile_append_of_pos (by simp), List.singleton_append, List.dropWhile_cons_of_neg (by simpa using hl)]

def arrive (t : FileTree) (dir : Location) (last : List Char) (slashes : Bool) : Except FileError Target :=
  if !t.isDirectoryAt dir then .error .notADirectory
  else if last == ['.'] then .ok (.existing dir)
  else if last == ['.', '.'] then .ok (.existing dir.dropLast)
  else if nameLimit < Text.byteLength last then .error .nameTooLong
  else .ok (.child dir last slashes)

theorem arrive_eq_child_iff {last : List Char} {s : Bool} (hl : last ≠ []) :
    t.arrive m last s = .ok (.child dir name slashes) ↔
      t.entry? dir = some .directory ∧ IsName name ∧ m = dir ∧ last = name ∧ s = slashes := by
  unfold arrive
  constructor
  · intro h
    split at h
    · cases h
    · next hd =>
      split at h
      · cases h
      · next hs =>
        split at h
        · cases h
        · next hu =>
          split at h
          · cases h
          · next hn =>
            cases h
            exact ⟨isDirectoryAt_iff.1 (by simpa using hd),
              ⟨hl, by simpa using hs, by simpa using hu, Nat.le_of_not_lt hn⟩, rfl, rfl, rfl⟩
  · rintro ⟨hd, ⟨-, h1, h2, h3⟩, rfl, rfl, rfl⟩
    simp [isDirectoryAt_iff.2 hd, h1, h2, Nat.not_lt.2 h3]

theorem target_of_replicate {k : Nat} (hc : checkPath p = .ok ()) (hs : segmentsOf p = List.replicate k []) :
    t.target p = .ok (.existing []) := by
  have hb : (List.replicate k ([] : List Char)).dropWhile List.isEmpty = [] := by simp
  unfold target
  rw [hc, hs]
  dsimp only
  rw [List.reverse_replicate, hb]

theorem target_of_split {front : List (List Char)} {last : List Char} {k : Nat} (hc : checkPath p = .ok ())
    (hs : segmentsOf p = front ++ last :: List.replicate k []) (hl : last ≠ []) :
    t.target p = match t.walk (t.start p) front with
      | .error e => .error e
      | .ok dir => t.arrive dir last (decide (k ≠ 0)) := by
  have hk : decide ((last :: front.reverse).length < (front ++ last :: List.replicate k []).length) =
      decide (k ≠ 0) := by
    simp [Nat.pos_iff_ne_zero]
  unfold target
  rw [hc, hs]
  dsimp only
  rw [dropWhile_reverse_of_split hl, hk]
  dsimp only
  rw [List.reverse_reverse]
  rfl

/-- A path that ends in the name `name` of the directory `dir`, perhaps with slashes behind it. -/
structure EndsIn (t : FileTree) (p : String) (dir : Location) (name : List Char) (slashes : Bool) : Prop where
  checked : checkPath p = .ok ()
  isName : IsName name
  directory : t.entry? dir = some .directory
  split : ∃ front k, segmentsOf p = front ++ name :: List.replicate k [] ∧
    t.walk (t.start p) front = .ok dir ∧ slashes = decide (k ≠ 0)

theorem target_eq_child_iff : t.target p = .ok (.child dir name slashes) ↔ t.EndsIn p dir name slashes := by
  constructor
  · intro h
    have hc : checkPath p = .ok () := by
      unfold target at h
      cases hc : checkPath p with
      | error e => rw [hc] at h; cases h
      | ok _ => rfl
    rcases segments_cases (segmentsOf p) with ⟨k, hs⟩ | ⟨front, last, k, hl, hs⟩
    · rw [target_of_replicate hc hs] at h
      cases h
    · rw [target_of_split hc hs hl] at h
      cases hw : t.walk (t.start p) front with
      | error e => rw [hw] at h; cases h
      | ok a =>
        rw [hw] at h
        obtain ⟨hd, hn, rfl, rfl, hk⟩ := (arrive_eq_child_iff hl).1 h
        exact ⟨hc, hn, hd, front, k, hs, hw, hk.symm⟩
  · rintro ⟨hc, hn, hd, front, k, hs, hw, rfl⟩
    rw [target_of_split hc hs hn.1, hw]
    exact (arrive_eq_child_iff hn.1).2 ⟨hd, hn, rfl, rfl, rfl⟩

namespace EndsIn

theorem extends_ (h : t.EndsIn p dir name slashes) (he : t.Extends t') : t'.EndsIn p dir name slashes := by
  obtain ⟨hc, hn, hd, front, k, hs, hw, hk⟩ := h
  exact ⟨hc, hn, he.directory _ hd, front, k, hs, by rw [he.start_eq]; exact he.walk_eq hw, hk⟩

theorem locate_eq (h : t.EndsIn p dir name slashes) (hp : (t.entry? (dir ++ [String.ofList name])).isSome)
    (hs : slashes = false ∨ t.entry? (dir ++ [String.ofList name]) = some .directory) :
    t.locate p = .ok (dir ++ [String.ofList name]) := by
  obtain ⟨hc, hn, hd, front, k, hsegs, hw, rfl⟩ := h
  have hstep : t.step dir name = .ok (dir ++ [String.ofList name]) :=
    step_eq_ok_iff.2 ⟨hd, .down hn hp⟩
  rw [locate_eq_ok_iff, hsegs, walk_append_eq_ok_iff]
  refine ⟨hc, dir, hw, walk_cons_eq_ok_iff.2 ⟨_, hstep, walk_replicate_iff.2 ⟨rfl, fun hk => ?_⟩⟩⟩
  exact hs.resolve_left (by simpa using hk)

end EndsIn

/-- Where a path leads to an entry, its last name is that of the entry, or it ends in dots. -/
theorem target_of_locate (h : t.locate p = .ok l) :
    (∃ m, t.target p = .ok (.existing m)) ∨
      ∃ dir name slashes, t.EndsIn p dir name slashes ∧ l = dir ++ [String.ofList name] := by
  obtain ⟨hc, hw⟩ := locate_eq_ok_iff.1 h
  rcases segments_cases (segmentsOf p) with ⟨k, hs⟩ | ⟨front, last, k, hl, hs⟩
  · exact .inl ⟨[], target_of_replicate hc hs⟩
  · rw [hs, walk_append_eq_ok_iff] at hw
    obtain ⟨dir, hf, hw⟩ := hw
    obtain ⟨a, hstep, hr⟩ := walk_cons_eq_ok_iff.1 hw
    obtain ⟨rfl, -⟩ := walk_replicate_iff.1 hr
    obtain ⟨hd, hleads⟩ := step_eq_ok_iff.1 hstep
    rw [target_of_split hc hs hl, hf]
    cases hleads with
    | stay hlast =>
      refine .inl ⟨l, ?_⟩
      rw [hlast.resolve_left hl]
      simp [arrive, isDirectoryAt_iff.2 hd]
    | up => exact .inl ⟨dir.dropLast, by simp [arrive, isDirectoryAt_iff.2 hd]⟩
    | down hn => exact .inr ⟨dir, last, _, ⟨hc, hn, hd, front, k, hs, hf, rfl⟩, rfl⟩

def Below (t : FileTree) (base : String) (l : Location) : Prop :=
  ∃ top, t.walk (t.start base) (segmentsOf base) = .ok top ∧ top <+: l

theorem Below.extends_ (h : t.Below base l) (he : t.Extends t') : t'.Below base l := by
  obtain ⟨top, hw, hp⟩ := h
  exact ⟨top, by rw [he.start_eq]; exact he.walk_eq hw, hp⟩

theorem exists_walk_base {front segs : List (List Char)}
    (hb : segmentsOf base = front ∨ segmentsOf base = front ++ [[]])
    (hw : t.walk (t.start base) (front ++ segs) = .ok m) (hd : segs ≠ [] ∨ t.entry? m = some .directory) :
    ∃ top, t.walk (t.start base) (segmentsOf base) = .ok top ∧ t.walk top segs = .ok m := by
  obtain ⟨top, hf, hs⟩ := walk_append_eq_ok_iff.1 hw
  refine ⟨top, ?_, hs⟩
  rcases hb with hb | hb <;> rw [hb]
  · exact hf
  · exact walk_append_eq_ok_iff.2 ⟨top, hf, walk_nil_iff.2 ⟨directory_of_walk hs hd, rfl⟩⟩

theorem below_of_walk {front segs : List (List Char)}
    (hb : segmentsOf base = front ∨ segmentsOf base = front ++ [[]])
    (hw : t.walk (t.start base) (front ++ segs) = .ok m) (hu : ['.', '.'] ∉ segs)
    (hd : segs ≠ [] ∨ t.entry? m = some .directory) : t.Below base m := by
  obtain ⟨top, hf, hs⟩ := exists_walk_base hb hw hd
  exact ⟨top, hf, prefix_of_walk hs hu⟩

theorem start_join (ha : Path.isAbsolute (Path.join base p) = Path.isAbsolute base) :
    t.start (Path.join base p) = t.start base := by
  rw [start, start, ha]

/-- A relative path without two dots leads from the directory it is joined to down by its names. -/
theorem eq_append_of_locate_join (hp : Path.isAbsolute p = false) (hu : .up ∉ Path.components p)
    (h : t.locate (Path.join base p) = .ok l) :
    ∃ top, t.walk (t.start base) (segmentsOf base) = .ok top ∧ l = top ++ (Path.names p).map String.ofList := by
  obtain ⟨front, -, hj, hb, ha⟩ := Path.slices_join base hp
  obtain ⟨-, hw⟩ := locate_eq_ok_iff.1 h
  have hs : segmentsOf (Path.join base p) = front ++ Path.slices p := hj
  rw [start_join ha, hs] at hw
  obtain ⟨top, htop, hw⟩ := exists_walk_base hb hw (.inl (Path.slices_ne_nil p))
  exact ⟨top, htop, eq_append_of_walk hw fun h => hu (Path.up_mem_components h)⟩

theorem below_of_locate (hp : Path.isAbsolute p = false) (hu : .up ∉ Path.components p)
    (h : t.locate (Path.join base p) = .ok l) : t.Below base l := by
  obtain ⟨top, htop, rfl⟩ := eq_append_of_locate_join hp hu h
  exact ⟨top, htop, List.prefix_append _ _⟩

/-- Two relative paths without two dots that are joined to one directory lead to the same place only if they
have the same names. -/
theorem locate_join_inj {q : String} (hp : Path.isAbsolute p = false) (hu : .up ∉ Path.components p)
    (hq : Path.isAbsolute q = false) (hv : .up ∉ Path.components q) (hl : t.locate (Path.join base p) = .ok l)
    (hm : t.locate (Path.join base q) = .ok m) : l = m ↔ Path.names p = Path.names q := by
  obtain ⟨top, htop, rfl⟩ := eq_append_of_locate_join hp hu hl
  obtain ⟨top', htop', rfl⟩ := eq_append_of_locate_join hq hv hm
  cases htop.symm.trans htop'
  rw [List.append_cancel_left_eq]
  exact (List.map_injective_iff.2 fun _ _ h => String.ofList_injective h).eq_iff

def Towards (t : FileTree) (base : String) (l : Location) : Prop :=
  ∃ segs, segs <+: segmentsOf base ∧ t.walk (t.start base) segs = .ok l

theorem Towards.extends_ (h : t.Towards base l) (he : t.Extends t') : t'.Towards base l := by
  obtain ⟨segs, hp, hw⟩ := h
  exact ⟨segs, hp, by rw [he.start_eq]; exact he.walk_eq hw⟩

/-- The directories above a path that is joined to `base` are on the way to `base` or below it. -/
theorem towards_or_below {q : String} (hp : Path.isAbsolute p = false) (hu : .up ∉ Path.components p)
    (hq : q ∈ Path.above (Path.join base p)) (h : t.locate q = .ok l) (hl : l ≠ []) :
    t.Towards base l ∨ t.Below base l := by
  obtain ⟨hc, hw⟩ := locate_eq_ok_iff.1 h
  have hne : q ≠ "" := by
    rintro rfl
    cases hc
  rcases Path.leading_of_mem_above hq with rfl | rfl | hlead
  · exact absurd rfl hne
  · -- The root is always there.
    have hs : segmentsOf "/" = List.replicate 2 [] :=
      (Text.split_cons_self '/' []).trans (by rw [Text.split_nil (by simp)]; rfl)
    rw [hs] at hw
    exact absurd (walk_replicate_iff.1 hw).1 hl
  · obtain ⟨front, -, hj, hb, ha⟩ := Path.slices_join base hp
    have hfront : front <+: segmentsOf base := by
      rcases hb with hb | hb <;> rw [segmentsOf, ← Path.slices, hb]
      exact List.prefix_append _ _
    have hseg := hlead.2
    rw [start, hlead.isAbsolute_eq hne, ha, ← start] at hw
    rw [hj] at hseg
    -- Either `q` ends on the way to `base`, or it goes on from there into `p`, where there are no two dots.
    rcases List.prefix_or_prefix_of_prefix hseg (List.prefix_append front _) with hq | ⟨x, hx⟩
    · exact .inl ⟨_, hq.trans hfront, hw⟩
    · rw [← hx] at hseg
      have hxp := (List.prefix_append_right_inj front).1 hseg
      have hw' : t.walk (t.start base) (front ++ x) = .ok l := hx ▸ hw
      cases x with
      | nil =>
        rw [List.append_nil] at hw'
        exact .inl ⟨front, hfront, hw'⟩
      | cons seg x =>
        refine .inr (below_of_walk hb hw' (fun hdots => hu (Path.up_mem_components ?_)) (.inl (by simp)))
        exact hxp.mem hdots

end ToolPipeline.FileTree
