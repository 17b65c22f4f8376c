import ToolPipeline.Proofs.FileTree.Operations
import ToolPipeline.Proofs.Text.Utf8

set_option autoImplicit false

/-!
Which directories can be created. Whatever is missing on the way to a directory is created before it, so
that creating succeeds wherever it takes no more than new directories to have one at the path.
-/

namespace ToolPipeline

namespace FileTree

open ToolPipeline.Path (slices)

variable {t t' u : FileTree} {l m dir : Location} {p q : String} {paths : List String}
  {segs : List (List Char)} {last : List Char} {k : Nat}

/-- Every entry is in a directory, and paths start in one. -/
structure Sound (t : FileTree) : Prop where
  parent : ∀ l, (t.entry? l).isSome → t.entry? l.dropLast = some .directory
  current : t.entry? t.current = some .directory

/-- It takes no more than new directories to have one at the path. -/
def Creatable (t : FileTree) (p : String) : Prop :=
  ∃ paths u, AddsDirectories paths t u ∧ u.holdsDirectory p = true

theorem sound_of_entries (h : ∀ e ∈ t.entries.toList, t.entry? e.1.dropLast = some .directory)
    (hc : t.entry? t.current = some .directory) : t.Sound := by
  refine ⟨fun l hl => ?_, hc⟩
  obtain ⟨e, he⟩ := Option.isSome_iff_exists.1 hl
  by_cases hnil : l = []
  · subst hnil
    rfl
  · have hg : t.entries.get? l = some e := by simpa [hnil, entry?] using he
    exact h (l, e) (OrderedMap.mem_of_get? hg)

theorem Sound.start_directory (hs : t.Sound) (p : String) : t.entry? (t.start p) = some .directory := by
  unfold start
  split
  · rfl
  · exact hs.current

theorem Sound.put {name : String} (hs : t.Sound) (hd : t.entry? dir = some .directory) :
    (t.put (dir ++ [name]) .directory).Sound := by
  have hput := get_put (t := t) (l := dir ++ [name]) (by simp) .directory
  have hkeep {m : Location} (hm : t.entry? m = some .directory) :
      entry? (t.put (dir ++ [name]) .directory) m = some .directory := by
    rw [hput]
    split
    · rfl
    · exact hm
  refine ⟨fun m hm => ?_, hkeep hs.current⟩
  rw [hput] at hm
  split at hm
  · next h =>
    subst h
    simpa using hkeep hd
  · exact hkeep (hs.parent m hm)

theorem AddsDirectories.put (h : AddsDirectories paths t u) (hl : l ≠ []) (hu : u.entry? l = some .directory) :
    AddsDirectories paths (t.put l .directory) u := by
  refine ⟨h.current_eq, fun m => ?_⟩
  rw [get_put hl]
  split
  · next hm => exact .inl (hm ▸ hu)
  · exact h.entries m

theorem step_eq_missing (hl : t.entry? l = some .directory) (hn : IsName last)
    (he : t.entry? (l ++ [String.ofList last]) = none) : t.step l last = .error .missing := by
  obtain ⟨h1, h2, h3, h4⟩ := hn
  simp [step, isDirectoryAt_iff.2 hl, h1, h2, h3, Nat.not_lt.2 h4, he]

/-- The way to a directory that can be created is there, or something on it is missing. -/
theorem walk_of_adds (h : AddsDirectories paths t u) (hs : t.Sound) (hl : t.entry? l = some .directory)
    (hw : u.walk l segs = .ok m) (hm : u.entry? m = some .directory) :
    t.walk l segs = .error .missing ∨ t.walk l segs = .ok m ∧ t.entry? m = some .directory := by
  induction segs generalizing l with
  | nil =>
    cases hw
    exact .inr ⟨rfl, hl⟩
  | cons seg segs ih =>
    obtain ⟨a, hstep, hw⟩ := walk_cons_eq_ok_iff.1 hw
    have hfurther (hleads : t.Leads l seg a) (ha : t.entry? a = some .directory) :
        t.walk l (seg :: segs) = .error .missing ∨ t.walk l (seg :: segs) = .ok m ∧ t.entry? m = some .directory := by
      rw [walk, step_eq_ok_iff.2 ⟨hl, hleads⟩]
      exact ih ha hw
    cases (step_eq_ok_iff.1 hstep).2 with
    | stay hseg => exact hfurther (.stay hseg) hl
    | up => exact hfurther .up (hs.parent l (by rw [hl]; rfl))
    | down hn he =>
      rcases h.entries (l ++ [String.ofList seg]) with heq | ⟨hnone, -⟩
      · have ha := heq.symm.trans (directory_of_walk hw (.inr hm))
        exact hfurther (.down hn (by rw [ha]; rfl)) ha
      · left
        rw [walk, step_eq_missing hl hn hnone]

theorem arrive_ne_missing (slashes : Bool) : t.arrive dir last slashes ≠ .error .missing := by
  unfold arrive
  repeat' split
  all_goals simp

theorem makeDirectory_ne_missing (hc : checkPath q = .ok ()) (hq : slices q = segs ++ last :: List.replicate k [])
    (hl : last ≠ []) (hw : t.walk (t.start q) segs = .ok m) : (makeDirectory q t).1 ≠ .error .missing := by
  rw [makeDirectory_apply, target_of_split hc hq hl, hw]
  dsimp only
  cases ha : t.arrive m last (decide (k ≠ 0)) with
  | error e =>
    intro he
    cases he
    exact arrive_ne_missing _ ha
  | ok place =>
    cases place with
    | existing => simp
    | child dir name slashes =>
      dsimp only
      split <;> simp

theorem ensureDirectory_of_adds (h : AddsDirectories paths t u) (hs : t.Sound) (hq : u.holdsDirectory q = true) :
    makeDirectory q t = (.error .missing, t) ∨
      ∃ t', ensureDirectory q t = (.ok (), t') ∧ t'.Sound ∧ AddsDirectories paths t' u := by
  by_cases ht : t.holdsDirectory q = true
  · exact .inr ⟨t, ensureDirectory_of_holdsDirectory ht, hs, h⟩
  obtain ⟨l, hloc, hl⟩ := lookup_eq_ok_iff.1 (holdsDirectory_iff.1 hq)
  obtain ⟨hc, hw⟩ := locate_eq_ok_iff.1 hloc
  have hreach (hw : t.walk (t.start q) (segmentsOf q) = .ok l) (hl : t.entry? l = some .directory) : False :=
    ht (holdsDirectory_iff.2 (lookup_eq_ok_iff.2 ⟨l, locate_eq_ok_iff.2 ⟨hc, hw⟩, hl⟩))
  have hstart := hs.start_directory q
  rw [h.extends_.start_eq] at hw
  rcases segments_cases (segmentsOf q) with ⟨k, hsegs⟩ | ⟨front, last, k, hlast, hsegs⟩
  · rw [hsegs] at hw hreach
    obtain ⟨rfl, -⟩ := walk_replicate_iff.1 hw
    exact (hreach (walk_replicate_iff.2 ⟨rfl, fun _ => hstart⟩) hstart).elim
  · rw [hsegs] at hw hreach
    obtain ⟨dir, hfront, hw⟩ := walk_append_eq_ok_iff.1 hw
    obtain ⟨a, hstep, hr⟩ := walk_cons_eq_ok_iff.1 hw
    obtain ⟨rfl, -⟩ := walk_replicate_iff.1 hr
    obtain ⟨hdir, hleads⟩ := step_eq_ok_iff.1 hstep
    rcases walk_of_adds h hs hstart hfront hdir with hmiss | ⟨hfront, hdir⟩
    · left
      rw [makeDirectory_apply, target_of_split hc hsegs hlast, hmiss]
    · right
      have hthere (hleads : t.Leads dir last l) (hl : t.entry? l = some .directory) : False :=
        hreach (walk_append_eq_ok_iff.2 ⟨dir, hfront, walk_cons_eq_ok_iff.2
          ⟨l, step_eq_ok_iff.2 ⟨hdir, hleads⟩, walk_replicate_iff.2 ⟨rfl, fun _ => hl⟩⟩⟩) hl
      cases hleads with
      | stay hseg => exact (hthere (.stay hseg) hdir).elim
      | up => exact (hthere .up (hs.parent dir (by rw [hdir]; rfl))).elim
      | down hn he =>
        rcases h.entries (dir ++ [String.ofList last]) with heq | ⟨hnone, hnew, -⟩
        · have hl := heq.symm.trans hl
          exact (hthere (.down hn (by rw [hl]; rfl)) hl).elim
        · have hends : t.EndsIn q dir last (decide (k ≠ 0)) := ⟨hc, hn, hdir, front, k, hsegs, hfront, rfl⟩
          have hmake : makeDirectory q t = (.ok (), t.put (dir ++ [String.ofList last]) .directory) := by
            rw [makeDirectory_apply, target_eq_child_iff.2 hends]
            simp [hnone]
          exact ⟨_, by rw [ensureDirectory, hmake], hs.put hdir, h.put (by simp) hnew⟩

theorem holdsDirectory_of_slashes (hc : checkPath p = .ok ()) (ha : Path.isAbsolute p = true)
    (hp : slices p = List.replicate k []) : t.holdsDirectory p = true := by
  have hstart : t.start p = [] := by rw [start, if_pos ha]
  refine holdsDirectory_iff.2 (lookup_eq_ok_iff.2 ⟨[], locate_eq_ok_iff.2 ⟨hc, ?_⟩, rfl⟩)
  change t.walk _ (slices p) = _
  rw [hstart, hp]
  exact walk_replicate_iff.2 ⟨rfl, fun _ => rfl⟩

theorem ne_empty_of_holdsDirectory (h : t.holdsDirectory p = true) : p ≠ "" := by
  rintro rfl
  obtain ⟨l, hloc, -⟩ := lookup_eq_ok_iff.1 (holdsDirectory_iff.1 h)
  cases (locate_eq_ok_iff.1 hloc).1

/-- Creating the paths opens the way along the segments, in every tree that is on its way to `u`. -/
def Opens (paths : List String) (u : FileTree) (p : String) (segs : List (List Char)) (wanted : List String) : Prop :=
  ∀ t : FileTree, t.Sound → AddsDirectories paths t u → ∃ t' m, makeFirst wanted t = (.ok (), t') ∧ t'.Sound ∧
    AddsDirectories paths t' u ∧ t'.walk (t'.start p) segs = .ok m ∧ t'.entry? m = some .directory

namespace Opens

variable {wanted : List String} {seg : List Char}

theorem here (paths : List String) (u : FileTree) (p : String) : Opens paths u p [] [""] :=
  fun t hs h => ⟨t, _, makeFirst_of_holdsDirectory (.inl rfl), hs, h, rfl, hs.start_directory p⟩

theorem there (paths : List String) (u : FileTree) (hp : ∀ t : FileTree, t.holdsDirectory p = true) :
    Opens paths u p (slices p) [p] := by
  intro t hs h
  obtain ⟨m, hloc, hm⟩ := lookup_eq_ok_iff.1 (holdsDirectory_iff.1 (hp t))
  exact ⟨t, m, makeFirst_of_holdsDirectory (.inr (hp t)), hs, h, (locate_eq_ok_iff.1 hloc).2, hm⟩

theorem root (paths : List String) (u : FileTree) (hp : Path.isAbsolute p = true) : Opens paths u p [[]] ["/"] := by
  intro t hs h
  have hslash : t.holdsDirectory "/" = true := holdsDirectory_of_slashes (k := 2) (by decide) (by decide)
    (by decide +kernel)
  refine ⟨t, [], makeFirst_of_holdsDirectory (.inr hslash), hs, h, ?_, rfl⟩
  rw [start, if_pos hp]
  exact walk_nil_iff.2 ⟨rfl, rfl⟩

theorem stay (h : Opens paths u p segs wanted) (hseg : seg = [] ∨ seg = ['.']) :
    Opens paths u p (segs ++ [seg]) wanted := by
  intro t hs hadds
  obtain ⟨t', m, hmake, hs', hadds', hw, hm⟩ := h t hs hadds
  have hstep : t'.step m seg = .ok m := step_eq_ok_iff.2 ⟨hm, .stay hseg⟩
  refine ⟨t', m, hmake, hs', hadds', walk_append_eq_ok_iff.2 ⟨m, hw, ?_⟩, hm⟩
  rw [walk, hstep]
  rfl

theorem cons (h : Opens paths u p segs wanted) (hq : u.holdsDirectory q = true)
    (ha : Path.isAbsolute q = Path.isAbsolute p) (hsegs : slices q = segs ++ last :: List.replicate k [])
    (hl : last ≠ []) : Opens paths u p (slices q) (q :: wanted) := by
  intro t hs hadds
  obtain ⟨l, hloc, -⟩ := lookup_eq_ok_iff.1 (holdsDirectory_iff.1 hq)
  obtain ⟨hc, -⟩ := locate_eq_ok_iff.1 hloc
  have hstart (t : FileTree) : t.start q = t.start p := by rw [start, start, ha]
  have hensured {t : FileTree} (he : ∃ t', ensureDirectory q t = (.ok (), t') ∧ t'.Sound ∧ AddsDirectories paths t' u) :
      ∃ t' m, ensureDirectory q t = (.ok (), t') ∧ t'.Sound ∧ AddsDirectories paths t' u ∧
        t'.walk (t'.start p) (slices q) = .ok m ∧ t'.entry? m = some .directory := by
    obtain ⟨t', hens, hs', hadds'⟩ := he
    obtain ⟨m, hloc, hm⟩ := lookup_eq_ok_iff.1 (holdsDirectory_iff.1 (holdsDirectory_of_ensureDirectory hens))
    exact ⟨t', m, hens, hs', hadds', hstart t' ▸ (locate_eq_ok_iff.1 hloc).2, hm⟩
  rw [makeFirst_cons_apply, if_neg (ne_empty_of_holdsDirectory hq)]
  split
  · -- What is missing is there afterwards, so that the second attempt does not miss it.
    obtain ⟨t1, m, hmake, hs1, hadds1, hw, hm⟩ := h t hs hadds
    rw [hmake]
    dsimp only
    have hpresent := makeDirectory_ne_missing hc hsegs hl ((hstart t1).symm ▸ hw)
    exact hensured ((ensureDirectory_of_adds hadds1 hs1 hq).resolve_left fun hmiss => hpresent (by rw [hmiss]))
  · next hpresent =>
    exact hensured ((ensureDirectory_of_adds hadds hs hq).resolve_left fun hmiss => hpresent (by rw [hmiss]))

end Opens

theorem checkPath_of_leading (h : checkPath p = .ok ()) (hq : Path.Leading q p) (hne : q ≠ "") :
    checkPath q = .ok () := by
  obtain ⟨r, hr⟩ := hq.1
  unfold checkPath at h ⊢
  rw [← hr, Text.byteLength_append] at h
  simp only [List.contains_iff_mem, List.mem_append] at h
  split at h
  · cases h
  · next hnul =>
    split at h
    · cases h
    · split at h
      · cases h
      · next hlong =>
        rw [not_or] at hnul
        simp only [List.contains_iff_mem, String.isEmpty_iff]
        rw [if_neg hnul.1, if_neg hne, if_neg (by omega)]

theorem holdsDirectory_of_leading (h : u.holdsDirectory p = true) (hq : Path.Leading q p) (hne : q ≠ "") :
    u.holdsDirectory q = true := by
  obtain ⟨l, hloc, hl⟩ := lookup_eq_ok_iff.1 (holdsDirectory_iff.1 h)
  obtain ⟨hc, hw⟩ := locate_eq_ok_iff.1 hloc
  obtain ⟨rest, hrest⟩ := hq.2
  have hstart : u.start q = u.start p := by rw [start, start, hq.isAbsolute_eq hne]
  change u.walk (u.start p) (slices p) = .ok l at hw
  rw [← hrest] at hw
  obtain ⟨m, hfront, hw⟩ := walk_append_eq_ok_iff.1 hw
  exact holdsDirectory_iff.2 (lookup_eq_ok_iff.2 ⟨m, locate_eq_ok_iff.2
    ⟨checkPath_of_leading hc hq hne, hstart ▸ hfront⟩, directory_of_walk hw (.inr hl)⟩)

theorem opens_segment {wanted : List String} {seg : List Char} {stop : Nat} {l m : List (List Char × Nat)}
    (hp : u.holdsDirectory p = true) (hs : Path.segments p.toList = l ++ (seg, stop) :: m) (hseg : seg ≠ [])
    (h : Opens paths u p (l.map Prod.fst) wanted) :
    Opens paths u p (l.map Prod.fst ++ [seg]) (String.ofList (p.toList.take stop) :: wanted) := by
  have hslices := Path.slices_take_of_segments hs
  have hmem : (seg, stop) ∈ Path.segments p.toList := by rw [hs]; simp
  have hq := Path.leading_of_mem_segments hmem
  have hne : String.ofList (p.toList.take stop) ≠ "" := by
    intro he
    rw [he, show slices "" = [[]] from Text.split_nil (by simp)] at hslices
    have hlast : seg ∈ [[]] := hslices ▸ List.mem_append_right _ (List.mem_singleton_self seg)
    exact hseg (List.mem_singleton.1 hlast)
  rw [← hslices]
  exact h.cons (holdsDirectory_of_leading hp hq hne) (hq.isAbsolute_eq hne) (k := 0) hslices hseg

section Segments

variable {e : List Char × Nat} {rest mid post : List (List Char × Nat)} {wanted : List String}
  (hp : u.holdsDirectory p = true) (hs : Path.segments p.toList = e :: rest)

include hp hs

theorem opens_first (paths : List String) : ∃ top, Path.located p.toList = top :: rest.filterMap Path.named ∧
    Opens paths u p [e.1]
      (String.ofList (p.toList.take top.2) :: if Path.isAbsolute p then [] else [""]) := by
  have hslices : slices p = e.1 :: rest.map Prod.fst := Path.slices_of_segments hs
  cases ha : Path.isAbsolute p with
  | true =>
    obtain ⟨_, hroot⟩ := Path.slices_of_isAbsolute ha
    have he : e.1 = [] := (List.cons.inj (hslices.symm.trans hroot)).1
    have htop : String.ofList (p.toList.take 1) = "/" := by
      rw [Path.isAbsolute_eq, beq_iff_eq, List.head?_eq_some_iff] at ha
      obtain ⟨_, hp⟩ := ha
      rw [hp]
      rfl
    refine ⟨_, Path.located_of_absolute ha hs, ?_⟩
    rw [he, htop]
    exact .root paths u ha
  | false =>
    have he : e.1 ≠ [] := fun he =>
      ne_empty_of_holdsDirectory hp (Path.eq_empty_of_slices ha (he ▸ hslices))
    obtain ⟨c, hcomponent⟩ : ∃ c, Path.componentOf true e.1 = some c :=
      Option.ne_none_iff_exists'.1 (Path.componentOf_eq_none_iff.not.2 (by simpa using he))
    have hlocated := Path.located_of_relative ha hs
    rw [hcomponent] at hlocated
    refine ⟨(c, e.2), hlocated, ?_⟩
    exact opens_segment hp (l := []) (m := rest) hs he (.here paths u p)

theorem Opens.segments (h : Opens paths u p [e.1] wanted) (hr : rest = mid ++ post) :
    Opens paths u p (e.1 :: mid.map Prod.fst)
      ((mid.filterMap Path.named).reverse.map (fun x => String.ofList (p.toList.take x.2)) ++ wanted) := by
  induction mid using List.reverseRecOn generalizing post with
  | nil => exact h
  | append_singleton mid x ih =>
    have ih := @ih (x :: post) (by rw [hr, List.append_assoc]; rfl)
    obtain ⟨seg, stop⟩ := x
    rw [List.map_append, ← List.cons_append, List.filterMap_append, List.reverse_append, List.map_append]
    cases hc : Path.componentOf false seg with
    | none =>
      have hnone : [(seg, stop)].filterMap Path.named = [] := by simp [Path.named, hc]
      rw [hnone]
      exact ih.stay (by simpa using Path.componentOf_eq_none_iff.1 hc)
    | some c =>
      have hsome : [(seg, stop)].filterMap Path.named = [(c, stop)] := by simp [Path.named, hc]
      rw [hsome]
      exact opens_segment hp (l := e :: mid) (m := post) (by rw [hs, hr]; simp) (Path.ne_nil_of_componentOf hc) ih

end Segments

theorem exists_replicate_of_not_endsInDot {l tail : List (List Char)} (h : ¬ Path.EndsInDot p)
    (hp : slices p = l ++ tail) (ht : ∀ seg ∈ tail, seg = [] ∨ seg = ['.']) :
    ∃ k, tail = List.replicate k [] := by
  rcases segments_cases tail with hslashes | ⟨front, last, k, hl, rfl⟩
  · exact hslashes
  · obtain rfl : last = ['.'] := (ht last (by simp)).resolve_left hl
    exact absurd ⟨l ++ front, k, by rw [hp, List.append_assoc]⟩ h

/-- A path that does not end in a dot is opened by the directories above it, from the top to itself. -/
theorem opens_ancestors (paths : List String) (hp : u.holdsDirectory p = true) (hdot : ¬ Path.EndsInDot p) :
    Opens paths u p (slices p) (Path.ancestors p) := by
  obtain ⟨e, rest, hsegs⟩ := Path.exists_segments_eq p
  have hslices : slices p = e.1 :: rest.map Prod.fst := Path.slices_of_segments hsegs
  obtain ⟨top, hlocated, hopens⟩ := opens_first hp hsegs paths
  rcases Path.filterMap_named_cases rest with hnil | ⟨front, x, back, last, rfl, hfront, hback, hx⟩
  · -- There is a single component, and behind it there are only slashes.
    obtain ⟨k, hk⟩ := exists_replicate_of_not_endsInDot (l := [e.1]) hdot hslices (Path.stays_of_filterMap hnil)
    rw [hk] at hslices
    rw [hnil] at hlocated
    rw [Path.ancestors_of_located (l := []) hlocated]
    cases ha : Path.isAbsolute p with
    | true =>
      obtain ⟨_, hroot⟩ := Path.slices_of_isAbsolute ha
      rw [(List.cons.inj (hslices.symm.trans hroot)).1] at hslices
      obtain ⟨_, hloc, -⟩ := lookup_eq_ok_iff.1 (holdsDirectory_iff.1 hp)
      exact .there paths u fun t => holdsDirectory_of_slashes (k := k + 1) (locate_eq_ok_iff.1 hloc).1 ha hslices
    | false =>
      have he : e.1 ≠ [] := fun he =>
        ne_empty_of_holdsDirectory hp (Path.eq_empty_of_slices ha (he ▸ hslices))
      exact (Opens.here paths u p).cons hp rfl hslices he
  · have hfirst := hopens.segments hp hsegs rfl
    rw [hfront, ← List.cons_append] at hlocated
    rw [Path.ancestors_of_located hlocated, List.reverse_cons, List.map_append, List.cons_append, List.append_assoc]
    have hsplit : slices p = (e.1 :: front.map Prod.fst) ++ x.1 :: back.map Prod.fst := by
      rw [hslices]
      simp
    obtain ⟨k, hk⟩ := exists_replicate_of_not_endsInDot (l := e.1 :: front.map Prod.fst ++ [x.1]) hdot
      (by rw [hsplit]; simp) (Path.stays_of_filterMap hback)
    rw [hk] at hsplit
    exact hfirst.cons hp rfl hsplit hx

/-- A directory can be created just where it takes no more than new directories to have it. The attempt is
given up too early at a path that ends in a dot, and succeeds at the empty path. -/
theorem makeDirectories_iff (hs : t.Sound) (hne : p ≠ "") (hdot : Path.EndsInDot p → t.holdsDirectory p = true) :
    (∃ t', makeDirectories p t = (.ok (), t')) ↔ t.Creatable p := by
  obtain ⟨rest, hancestors⟩ := exists_ancestors_eq p
  constructor
  · rintro ⟨t', h⟩
    have hadds := makeFirst_adds (Path.ancestors p) t
    rw [makeDirectories] at h
    rw [h] at hadds
    rw [hancestors] at h
    exact ⟨_, t', hadds, (holdsDirectory_of_makeFirst h).resolve_left hne⟩
  · intro h
    by_cases hd : Path.EndsInDot p
    · exact ⟨t, by rw [makeDirectories, hancestors]; exact makeFirst_of_holdsDirectory (.inr (hdot hd))⟩
    · obtain ⟨paths, u, hadds, hp⟩ := h
      obtain ⟨t', -, hmake, -⟩ := opens_ancestors paths hp hd t hs hadds
      exact ⟨t', hmake⟩

end FileTree

end ToolPipeline
