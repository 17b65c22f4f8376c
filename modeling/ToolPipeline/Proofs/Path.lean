import ToolPipeline.Path
import ToolPipeline.Proofs.Text.Split

set_option autoImplicit false

/-!
What joining does to the components of a path. A relative path without two dots leads to a place under
the directory it is joined to, and this can be read off the texts.
-/

namespace ToolPipeline.Path

open Text (split split_nil split_of_notMem split_cons_self split_cons_of_ne split_append_cons split_ne_nil)

def slices (p : String) : List (List Char) := split ['/'] p.toList

theorem slices_ne_nil (p : String) : slices p ≠ [] := split_ne_nil (by simp) _

theorem map_fst_segmentsGo (start : Nat) (seg s : List Char) :
    (segments.go start seg s).map Prod.fst = (split ['/'] s).modifyHead (seg.reverse ++ ·) := by
  induction s generalizing start seg with
  | nil => simp [segments.go, split_nil]
  | cons c s ih =>
    unfold segments.go
    by_cases hc : c = '/'
    · subst hc
      rw [if_pos (by simp), List.map_cons, ih, split_cons_self]
      cases split ['/'] s <;> simp
    · rw [if_neg (by simpa using hc), ih, split_cons_of_ne hc]
      cases split ['/'] s <;> simp

theorem map_fst_segments (s : List Char) : (segments s).map Prod.fst = split ['/'] s := by
  rw [segments, map_fst_segmentsGo]
  cases split ['/'] s <;> simp

def componentsOf (absolute : Bool) : List (List Char) → List Component
  | [] => []
  | first :: rest =>
    (if absolute then [.root] else (componentOf true first).toList) ++ rest.filterMap (componentOf false)

theorem componentsOf_append {front : List (List Char)} (h : front ≠ []) (absolute : Bool)
    (rest : List (List Char)) :
    componentsOf absolute (front ++ rest) =
      componentsOf absolute front ++ rest.filterMap (componentOf false) := by
  cases front with
  | nil => exact absurd rfl h
  | cons first front => simp [componentsOf]

theorem components_eq (p : String) : components p = componentsOf (isAbsolute p) (slices p) := by
  unfold components located slices isAbsolute
  rw [← map_fst_segments]
  have hm (l : List (List Char × Nat)) :
      (l.filterMap fun x => (componentOf false x.1).map fun c => (c, x.2)).map Prod.fst =
        (l.map Prod.fst).filterMap (componentOf false) := by
    rw [List.map_filterMap, List.filterMap_map]
    exact List.filterMap_congr fun x _ => by simp [Option.map_map, Function.comp_def]
  cases segments p.toList with
  | nil => rfl
  | cons x rest =>
    dsimp only
    rw [List.map_cons, componentsOf]
    split
    · simp [hm]
    · cases componentOf true x.1 <;> simp [hm]

theorem componentOf_eq_up {first : Bool} {seg : List Char} (h : componentOf first seg = some .up) :
    seg = ['.', '.'] := by
  unfold componentOf at h
  split at h
  · cases h
  · split at h
    · split at h <;> cases h
    · split at h
      · next hs => simpa using hs
      · cases h

theorem isAbsolute_eq (p : String) : isAbsolute p = (p.toList.head? == some '/') := by
  unfold isAbsolute
  split
  · next h => rw [h]; rfl
  · next h =>
    cases hp : p.toList with
    | nil => rfl
    | cons c s =>
      have hc : c ≠ '/' := fun hc => h s (hc ▸ hp)
      simpa using hc

theorem isAbsolute_append {a : String} (h : a ≠ "") (b : String) : isAbsolute (a ++ b) = isAbsolute a := by
  have ha : a.toList ≠ [] := by simpa using h
  rw [isAbsolute_eq, isAbsolute_eq, String.toList_append, List.head?_append_of_ne_nil _ ha]

theorem slices_of_isAbsolute {p : String} (h : isAbsolute p = true) : ∃ rest, slices p = [] :: rest := by
  unfold isAbsolute at h
  split at h
  · next s hp => exact ⟨split ['/'] s, by rw [slices, hp, split_cons_self]⟩
  · cases h

theorem eq_empty_of_slices {p : String} {rest : List (List Char)} (ha : isAbsolute p = false)
    (h : slices p = [] :: rest) : p = "" := by
  rw [isAbsolute_eq] at ha
  rw [slices] at h
  cases hp : p.toList with
  | nil => simpa using hp
  | cons c s =>
    rw [hp] at ha h
    have hc : c ≠ '/' := by simpa using ha
    rw [split_cons_of_ne hc] at h
    cases hs : split ['/'] s with
    | nil => exact absurd hs (split_ne_nil (by simp) s)
    | cons first front =>
      rw [hs] at h
      cases (List.cons.inj h).1

theorem up_mem_components {p : String} (h : ['.', '.'] ∈ slices p) : .up ∈ components p := by
  rw [components_eq]
  cases hs : slices p with
  | nil => exact absurd hs (slices_ne_nil p)
  | cons first rest =>
    rw [hs] at h
    rw [componentsOf, List.mem_append]
    rcases List.mem_cons.1 h with rfl | h
    · have ha : isAbsolute p = false := by
        by_contra ha
        obtain ⟨_, hr⟩ := slices_of_isAbsolute (by simpa using ha)
        cases hs.symm.trans hr
      left
      simp [ha, componentOf]
    · exact .inr (List.mem_filterMap.2 ⟨_, h, by decide⟩)

theorem up_mem_components_iff {p : String} : .up ∈ components p ↔ ['.', '.'] ∈ slices p := by
  refine ⟨fun h => ?_, up_mem_components⟩
  rw [components_eq] at h
  cases hs : slices p with
  | nil => exact absurd hs (slices_ne_nil p)
  | cons first rest =>
    rw [hs, componentsOf, List.mem_append] at h
    rcases h with h | h
    · split at h
      · simp at h
      · rw [Option.mem_toList] at h
        rw [componentOf_eq_up h]
        exact List.mem_cons_self
    · obtain ⟨seg, hseg, hc⟩ := List.mem_filterMap.1 h
      rw [componentOf_eq_up hc] at hseg
      exact List.mem_cons_of_mem _ hseg

variable {base p : String}

/-- Joining puts the slices of a relative path behind those of the directory. A slash at the end of the
directory makes an empty slice there, which is not repeated. -/
theorem slices_join (base : String) (hp : isAbsolute p = false) :
    ∃ front, (base ≠ "" → front ≠ []) ∧ slices (join base p) = front ++ slices p ∧
      (slices base = front ∨ slices base = front ++ [[]]) ∧ isAbsolute (join base p) = isAbsolute base := by
  by_cases hb : base = ""
  · subst hb
    have hj : join "" p = p := by simp [join]
    exact ⟨[], fun h => absurd rfl h, by rw [hj, List.nil_append], .inr (split_nil (by simp)), by rw [hj, hp]; rfl⟩
  unfold join
  rw [if_neg (by simp [hp, hb])]
  split
  · next hl =>
    obtain ⟨s, hs⟩ := List.getLast?_eq_some_iff.1 (by simpa using hl)
    refine ⟨split ['/'] s, fun _ => split_ne_nil (by simp) _, ?_, .inr ?_, isAbsolute_append hb p⟩
    · rw [slices, slices, String.toList_append, hs, List.append_assoc, List.singleton_append, split_append_cons]
    · rw [slices, hs, split_append_cons, split_nil (by simp)]
  · refine ⟨slices base, fun _ => slices_ne_nil base, ?_, .inl rfl, ?_⟩
    · rw [slices, slices, String.toList_append, String.toList_append]
      exact (congrArg (split ['/']) (by simp)).trans (split_append_cons '/' base.toList p.toList)
    · rw [String.append_assoc, isAbsolute_append hb]

/-- The slices of a path that lead somewhere: neither empty slices nor dots. Paths with the same names are
spelled differently at most. -/
def names (p : String) : List (List Char) := (slices p).filter fun seg => !(seg.isEmpty || seg == ['.'])

theorem names_join (base : String) (hp : isAbsolute p = false) : names (join base p) = names base ++ names p := by
  obtain ⟨front, -, hj, hb, -⟩ := slices_join base hp
  rw [names, names, hj, List.filter_append, names]
  rcases hb with hb | hb <;> simp [hb]

theorem slices_append {s : String} (hs : '/' ∉ s.toList) (p : String) :
    slices (s ++ "/" ++ p) = s.toList :: slices p := by
  rw [slices, String.toList_append, String.toList_append]
  refine (congrArg (split ['/']) (by simp)).trans ((split_append_cons '/' s.toList p.toList).trans ?_)
  rw [split_of_notMem hs, List.singleton_append, slices]

theorem names_append {s : String} (hs : '/' ∉ s.toList) (hne : s ≠ "") (hdot : s ≠ ".") (p : String) :
    names (s ++ "/" ++ p) = s.toList :: names p := by
  have hdot' : s.toList ≠ ['.'] := fun h => hdot (String.toList_inj.1 h)
  rw [names, slices_append hs, List.filter_cons_of_pos (by simp [hne, hdot']), names]

def EndsInDot (p : String) : Prop := ∃ front k, slices p = front ++ ['.'] :: List.replicate k []

def Leading (q p : String) : Prop := q.toList <+: p.toList ∧ slices q <+: slices p

theorem Leading.trans {q r : String} (h : Leading q r) (h' : Leading r p) : Leading q p :=
  ⟨h.1.trans h'.1, h.2.trans h'.2⟩

theorem Leading.isAbsolute_eq {q : String} (h : Leading q p) (hq : q ≠ "") : isAbsolute q = isAbsolute p := by
  obtain ⟨r, hr⟩ := h.1
  have hp : p = q ++ String.ofList r := by rw [← String.toList_inj, ← hr]; simp
  rw [hp, isAbsolute_append hq]

theorem split_take_of_segmentsGo {start stop : Nat} {seg s x : List Char} {pre post : List (List Char × Nat)}
    (h : segments.go start seg s = pre ++ (x, stop) :: post) :
    ∃ n, stop = start + seg.length + n ∧
      (split ['/'] (s.take n)).modifyHead (seg.reverse ++ ·) = pre.map Prod.fst ++ [x] := by
  induction s generalizing start seg pre with
  | nil =>
    obtain ⟨rfl, hx⟩ : pre = [] ∧ (seg.reverse, start + seg.length) = (x, stop) := by
      cases pre <;> simp_all [segments.go]
    cases hx
    exact ⟨0, rfl, by simp [split_nil]⟩
  | cons c s ih =>
    unfold segments.go at h
    by_cases hc : c = '/'
    · subst hc
      rw [if_pos (by simp)] at h
      cases pre with
      | nil =>
        cases (List.cons.inj h).1
        exact ⟨0, rfl, by simp [split_nil]⟩
      | cons e pre =>
        rw [List.cons_append, List.cons.injEq] at h
        obtain ⟨rfl, h⟩ := h
        obtain ⟨n, rfl, hn⟩ := ih h
        refine ⟨n + 1, by simp; omega, ?_⟩
        have hsplit : split ['/'] (s.take n) = pre.map Prod.fst ++ [x] := by
          rw [← hn]
          cases split ['/'] (s.take n) <;> simp
        rw [List.take_succ_cons, split_cons_self, List.modifyHead_cons, hsplit]
        simp
    · rw [if_neg (by simpa using hc)] at h
      obtain ⟨n, rfl, hn⟩ := ih h
      refine ⟨n + 1, by simp; omega, ?_⟩
      rw [List.take_succ_cons, split_cons_of_ne hc, ← hn]
      cases split ['/'] (s.take n) <;> simp

theorem slices_of_segments {l : List (List Char × Nat)} (h : segments p.toList = l) : slices p = l.map Prod.fst := by
  rw [slices, ← map_fst_segments, h]

theorem slices_take_of_segments {stop : Nat} {x : List Char} {pre post : List (List Char × Nat)}
    (h : segments p.toList = pre ++ (x, stop) :: post) :
    slices (String.ofList (p.toList.take stop)) = pre.map Prod.fst ++ [x] := by
  obtain ⟨n, rfl, hn⟩ := split_take_of_segmentsGo h
  change List.modifyHead id (split ['/'] (p.toList.take n)) = _ at hn
  rw [List.modifyHead_id] at hn
  simpa [slices] using hn

theorem leading_of_mem_segments {stop : Nat} {x : List Char} (h : (x, stop) ∈ segments p.toList) :
    Leading (String.ofList (p.toList.take stop)) p := by
  obtain ⟨pre, post, hs⟩ := List.append_of_mem h
  have hp : slices p = pre.map Prod.fst ++ [x] ++ post.map Prod.fst := by
    rw [slices_of_segments hs]
    simp
  rw [Leading, slices_take_of_segments hs, hp, String.toList_ofList]
  exact ⟨List.take_prefix _ _, List.prefix_append _ _⟩

def named (e : List Char × Nat) : Option (Component × Nat) := (componentOf false e.1).map fun c => (c, e.2)

theorem located_of_absolute {e : List Char × Nat} {rest : List (List Char × Nat)} (ha : isAbsolute p = true)
    (hs : segments p.toList = e :: rest) : located p.toList = (.root, 1) :: rest.filterMap named := by
  unfold isAbsolute at ha
  unfold located
  rw [hs]
  split at ha
  · rfl
  · cases ha

theorem located_of_relative {e : List Char × Nat} {rest : List (List Char × Nat)} (ha : isAbsolute p = false)
    (hs : segments p.toList = e :: rest) :
    located p.toList = ((componentOf true e.1).map fun c => (c, e.2)).toList ++ rest.filterMap named := by
  unfold isAbsolute at ha
  unfold located
  rw [hs]
  split at ha
  · cases ha
  · rfl

theorem componentOf_ne_root (first : Bool) (seg : List Char) : componentOf first seg ≠ some .root := by
  unfold componentOf
  split
  · simp
  · split
    · split <;> simp
    · split <;> simp

theorem componentOf_eq_none_iff {first : Bool} {seg : List Char} :
    componentOf first seg = none ↔ seg = [] ∨ first = false ∧ seg = ['.'] := by
  unfold componentOf
  split
  · next h => simpa using Or.inl h
  · next h =>
    split
    · next h' =>
      simp only [List.isEmpty_iff, beq_iff_eq] at h h'
      cases first <;> simp [h']
    · next h' =>
      simp only [List.isEmpty_iff, beq_iff_eq] at h h'
      split <;> simp [h, h']

theorem ne_nil_of_componentOf {first : Bool} {seg : List Char} {c : Component} (h : componentOf first seg = some c) :
    seg ≠ [] := by
  intro hn
  rw [componentOf_eq_none_iff.2 (.inl hn)] at h
  cases h

theorem exists_segments_eq (p : String) : ∃ e rest, segments p.toList = e :: rest := by
  have h := slices_ne_nil p
  rw [slices, ← map_fst_segments] at h
  exact List.exists_cons_of_ne_nil (List.map_eq_nil_iff.not.1 h)

theorem mem_located {c : Component} {stop : Nat} (h : (c, stop) ∈ located p.toList) :
    isAbsolute p = true ∧ c = .root ∧ stop = 1 ∨
      ∃ first x, (x, stop) ∈ segments p.toList ∧ componentOf first x = some c := by
  obtain ⟨e, rest, hs⟩ := exists_segments_eq p
  have htail (h : (c, stop) ∈ rest.filterMap named) :
      ∃ first x, (x, stop) ∈ segments p.toList ∧ componentOf first x = some c := by
    obtain ⟨⟨x, _⟩, hx, hn⟩ := List.mem_filterMap.1 h
    obtain ⟨_, hc, he⟩ := Option.map_eq_some_iff.1 hn
    cases he
    exact ⟨false, x, hs ▸ List.mem_cons_of_mem _ hx, hc⟩
  cases ha : isAbsolute p with
  | true =>
    rw [located_of_absolute ha hs] at h
    rcases List.mem_cons.1 h with h | h
    · cases h
      exact .inl ⟨rfl, rfl, rfl⟩
    · exact .inr (htail h)
  | false =>
    rw [located_of_relative ha hs] at h
    rcases List.mem_append.1 h with h | h
    · obtain ⟨_, hc, he⟩ := Option.map_eq_some_iff.1 (Option.mem_toList.1 h)
      cases he
      exact .inr ⟨true, e.1, hs ▸ List.mem_cons_self, hc⟩
    · exact .inr (htail h)

theorem root_notMem_located (ha : isAbsolute p = false) {stop : Nat} : (.root, stop) ∉ located p.toList := by
  intro h
  rcases mem_located h with ⟨ha', -⟩ | ⟨first, x, -, hc⟩
  · rw [ha] at ha'
    cases ha'
  · exact componentOf_ne_root first x hc

theorem leading_of_mem_located {stop : Nat} {c : Component} (h : (c, stop) ∈ located p.toList) :
    String.ofList (p.toList.take stop) = "/" ∨ Leading (String.ofList (p.toList.take stop)) p := by
  rcases mem_located h with ⟨ha, rfl, rfl⟩ | ⟨first, x, hx, -⟩
  · left
    rw [isAbsolute_eq, beq_iff_eq, List.head?_eq_some_iff] at ha
    obtain ⟨s, hp⟩ := ha
    rw [hp]
    rfl
  · exact .inr (leading_of_mem_segments hx)

theorem ancestors_of_located {l : List (Component × Nat)} {e : Component × Nat}
    (h : located p.toList = l ++ [e]) : ancestors p =
      p :: l.reverse.map (fun x => String.ofList (p.toList.take x.2)) ++ if isAbsolute p then [] else [""] := by
  unfold ancestors
  rw [h, List.reverse_append, List.reverse_singleton, List.singleton_append]
  -- The first component tells whether the path starts from the root.
  dsimp only
  refine congrArg (p :: List.map (fun x => String.ofList (p.toList.take x.2)) l.reverse ++ ·) ?_
  obtain ⟨first, rest, hl⟩ : ∃ first rest, l ++ [e] = first :: rest := List.exists_cons_of_ne_nil (by simp)
  have hfirst : (l.reverse.getLast?.map (·.1)).getD e.1 = first.1 := by
    cases l <;> simp_all
  rw [hfirst]
  rw [hl] at h
  cases ha : isAbsolute p with
  | false =>
    have hmem : first ∈ located p.toList := h ▸ List.mem_cons_self
    have hne : first.1 ≠ .root := by
      intro hc
      have hr : (Component.root, first.2) ∈ located p.toList := hc ▸ hmem
      exact root_notMem_located ha hr
    rw [if_neg (by simp)]
    cases hc : first.1 <;> simp_all
  | true =>
    obtain ⟨_, _, hs⟩ := exists_segments_eq p
    rw [located_of_absolute ha hs] at h
    cases (List.cons.inj h).1
    rfl
theorem stays_of_filterMap {l : List (List Char × Nat)} (h : l.filterMap named = []) :
    ∀ seg ∈ l.map Prod.fst, seg = [] ∨ seg = ['.'] := by
  intro seg hseg
  obtain ⟨x, hx, rfl⟩ := List.mem_map.1 hseg
  have hnone := List.filterMap_eq_nil_iff.1 h x hx
  simpa using componentOf_eq_none_iff.1 (Option.map_eq_none_iff.1 hnone)

theorem filterMap_named_cases (l : List (List Char × Nat)) : l.filterMap named = [] ∨
    ∃ front x back last, l = front ++ x :: back ∧ l.filterMap named = front.filterMap named ++ [last] ∧
      back.filterMap named = [] ∧ x.1 ≠ [] := by
  rcases List.eq_nil_or_concat (l.filterMap named) with hnil | ⟨before, last, hconcat⟩
  · exact .inl hnil
  · rw [List.concat_eq_append] at hconcat
    obtain ⟨front, _, rfl, rfl, hlast⟩ := List.filterMap_eq_append_iff.1 hconcat
    obtain ⟨skipped, x, back, rfl, hskipped, hx, hback⟩ := List.filterMap_eq_cons_iff.1 hlast
    obtain ⟨_, hc, -⟩ := Option.map_eq_some_iff.1 hx
    have hfront : (front ++ skipped).filterMap named = front.filterMap named := by
      rw [List.filterMap_append, List.filterMap_eq_nil_iff.2 hskipped, List.append_nil]
    exact .inr ⟨front ++ skipped, x, back, last, by simp, by rw [hconcat, hfront], hback, ne_nil_of_componentOf hc⟩

theorem exists_parent?_of_located {l : List (Component × Nat)} {last : Component × Nat}
    (h : located p.toList = l ++ [last]) (hl : l ≠ [] ∨ last.1 ≠ .root) : ∃ q, parent? p = some q := by
  unfold parent?
  rw [h, List.reverse_append, List.reverse_singleton, List.singleton_append]
  cases hr : l.reverse with
  | nil =>
    have hroot := hl.resolve_left (by simpa using hr)
    obtain ⟨c, stop⟩ := last
    cases c with
    | root => exact absurd rfl hroot
    | here | up | name => exact ⟨_, rfl⟩
  | cons =>
    obtain ⟨c, stop⟩ := last
    cases c <;> exact ⟨_, rfl⟩

theorem names_of_parent? (h : parent? p = none) : names p = [] ∧ (isAbsolute p = true ∨ p = "") := by
  have hnone {l : List (Component × Nat)} {last : Component × Nat} (hl : located p.toList = l ++ [last])
      (hroot : l ≠ [] ∨ last.1 ≠ .root) : False := by
    obtain ⟨q, hq⟩ := exists_parent?_of_located hl hroot
    rw [h] at hq
    cases hq
  obtain ⟨e, rest, hs⟩ := exists_segments_eq p
  have hslices : slices p = e.1 :: rest.map Prod.fst := slices_of_segments hs
  cases ha : isAbsolute p with
  | true =>
    obtain ⟨_, hroot⟩ := slices_of_isAbsolute ha
    have hlocated := located_of_absolute ha hs
    rcases List.eq_nil_or_concat (rest.filterMap named) with hnil | ⟨front, last, hconcat⟩
    · refine ⟨List.filter_eq_nil_iff.2 fun seg hseg => ?_, .inl rfl⟩
      rw [hslices, (List.cons.inj (hslices.symm.trans hroot)).1, List.mem_cons] at hseg
      rcases hseg with rfl | hseg
      · simp
      · rcases stays_of_filterMap hnil seg hseg with rfl | rfl <;> simp
    · rw [hconcat, List.concat_eq_append, ← List.cons_append] at hlocated
      exact (hnone hlocated (.inl (by simp))).elim
  | false =>
    rcases List.eq_nil_or_concat (located p.toList) with hnil | ⟨front, last, hconcat⟩
    · rw [located_of_relative ha hs, List.append_eq_nil_iff, Option.toList_eq_nil_iff, Option.map_eq_none_iff] at hnil
      have he : e.1 = [] := by simpa using componentOf_eq_none_iff.1 hnil.1
      rw [he] at hslices
      obtain rfl := eq_empty_of_slices ha hslices
      exact ⟨by decide +kernel, .inr rfl⟩
    · rw [List.concat_eq_append] at hconcat
      refine (hnone hconcat (.inr fun hroot => ?_)).elim
      have hmem : (Component.root, last.2) ∈ located p.toList := by rw [hconcat, ← hroot]; simp
      exact root_notMem_located ha hmem

def above (p : String) : List String := ((parent? p).map ancestors).getD []

theorem leading_of_parent? {q : String} (h : parent? p = some q) : q = "" ∨ q = "/" ∨ Leading q p := by
  unfold parent? at h
  split at h
  · cases h
  · cases h
  · next e rest _ hl =>
    cases rest with
    | nil => cases h; exact .inl rfl
    | cons e rest =>
      cases h
      refine .inr (leading_of_mem_located (c := e.1) (List.mem_reverse.1 ?_))
      rw [hl]
      simp

theorem leading_of_mem_ancestors {q : String} (h : q ∈ ancestors p) : q = "" ∨ q = "/" ∨ Leading q p := by
  have hself : Leading p p := ⟨List.prefix_refl _, List.prefix_refl _⟩
  unfold ancestors at h
  split at h
  · exact .inr (.inr (List.mem_singleton.1 h ▸ hself))
  · next last stop rest hl =>
    rw [List.cons_append, List.mem_cons, List.mem_append] at h
    rcases h with rfl | h | h
    · exact .inr (.inr hself)
    · obtain ⟨⟨c, n⟩, hx, rfl⟩ := List.mem_map.1 h
      refine .inr (leading_of_mem_located (c := c) (List.mem_reverse.1 ?_))
      rw [hl]
      exact List.mem_cons_of_mem _ hx
    · split at h
      · cases h
      · exact .inl (List.mem_singleton.1 h)

/-- The directories above a path are on the way to it, apart from the root and the directory in which
relative paths start. -/
theorem leading_of_mem_above {q : String} (h : q ∈ above p) : q = "" ∨ q = "/" ∨ Leading q p := by
  unfold above at h
  cases hp : parent? p with
  | none => rw [hp] at h; cases h
  | some dir =>
    rw [hp] at h
    rcases leading_of_parent? hp with rfl | rfl | hdir
    · exact .inl (List.mem_singleton.1 h)
    · exact .inr (.inl (List.mem_singleton.1 h))
    · exact (leading_of_mem_ancestors h).imp_right (.imp_right fun hq => hq.trans hdir)

/-- The path is one of the directory `base`, as far as the texts tell: it goes on where `base` ends, and
never up. -/
def Under (base p : String) : Prop := ∃ rest, components p = components base ++ rest ∧ .up ∉ rest

theorem components_join (hb : base ≠ "") (hp : isAbsolute p = false) :
    components (join base p) = components base ++ (slices p).filterMap (componentOf false) := by
  obtain ⟨front, hf, hj, hs, ha⟩ := slices_join base hp
  have hf := hf hb
  rw [components_eq, components_eq, hj, ha, componentsOf_append hf]
  rcases hs with hs | hs <;> rw [hs]
  rw [componentsOf_append hf]
  simp [componentOf]

theorem under_join (hp : isAbsolute p = false) (hu : .up ∉ components p) : Under base (join base p) := by
  by_cases hb : base = ""
  · subst hb
    have hj : join "" p = p := by simp [join]
    exact ⟨components p, by rw [hj]; rfl, hu⟩
  · refine ⟨_, components_join hb hp, fun h => ?_⟩
    obtain ⟨seg, hs, hc⟩ := List.mem_filterMap.1 h
    exact hu (up_mem_components (componentOf_eq_up hc ▸ hs))

theorem components_join_name (hp : '/' ∉ p.toList) (hne : p ≠ "") (hdot : p ≠ ".") (hdots : p ≠ "..") :
    components (join base p) = components base ++ [.name p.toList] := by
  have hs : slices p = [p.toList] := split_of_notMem hp
  have ha : isAbsolute p = false := by
    by_contra ha
    obtain ⟨rest, hr⟩ := slices_of_isAbsolute (by simpa using ha)
    exact hne (by simpa using (List.cons.inj (hs.symm.trans hr)).1)
  have hc (first : Bool) : componentOf first p.toList = some (.name p.toList) := by
    have hdot' : p.toList ≠ ['.'] := fun h => hdot (String.toList_inj.1 h)
    have hdots' : p.toList ≠ ['.', '.'] := fun h => hdots (String.toList_inj.1 h)
    simp [componentOf, hne, hdot', hdots']
  by_cases hb : base = ""
  · subst hb
    have hj : join "" p = p := by simp [join]
    rw [hj, components_eq, ha, hs]
    simp [componentsOf, hc]
    rfl
  · rw [components_join hb ha, hs]
    simp [hc]

theorem join_join {s : String} (ha : isAbsolute s = false) (hs : s ≠ "") (hl : s.toList.getLast? ≠ some '/')
    (hp : isAbsolute p = false) : join (join base s) p = join base (s ++ "/" ++ p) := by
  have hsp : isAbsolute (s ++ "/" ++ p) = false := by rw [String.append_assoc, isAbsolute_append hs, ha]
  have hs' : s.toList ≠ [] := by simpa using hs
  -- Nothing that ends like `s` is empty or ends with a slash.
  have hj (b : String) : join (b ++ s) p = b ++ s ++ "/" ++ p := by
    have hne : b ++ s ≠ "" := fun h => hs (String.append_eq_empty_iff.1 h).2
    rw [join, if_neg (by simp [hp, hne]), if_neg]
    rw [String.toList_append, List.getLast?_append_of_ne_nil _ hs']
    simpa using hl
  by_cases hb : base = ""
  · subst hb
    simpa [join, ha, hsp] using hj ""
  · rw [join.eq_def base s, join.eq_def base (s ++ "/" ++ p)]
    simp only [ha, hsp, Bool.false_or, String.isEmpty_iff, hb, if_false]
    split
    · rw [hj, String.append_assoc, String.append_assoc, String.append_assoc]
    · rw [hj]
      simp only [String.append_assoc]

end ToolPipeline.Path
