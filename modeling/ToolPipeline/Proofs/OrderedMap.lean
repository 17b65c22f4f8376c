import Mathlib.Data.List.Nodup
import ToolPipeline.OrderedMap

set_option autoImplicit false

/-! The keys of ordered maps, and what is found under them. -/

namespace ToolPipeline

namespace OrderedMap

variable {κ α : Type} [DecidableEq κ]

theorem map_fst_insertList (k : κ) (v : α) (l : List (κ × α)) :
    (insertList k v l).map Prod.fst = if k ∈ l.map Prod.fst then l.map Prod.fst else l.map Prod.fst ++ [k] := by
  induction l with
  | nil => simp [insertList]
  | cons e l ih =>
    by_cases he : e.1 = k
    · simp [insertList, he]
    · have hk : k ≠ e.1 := Ne.symm he
      rw [insertList, if_neg he, List.map_cons, ih, List.map_cons]
      simp only [List.mem_cons, hk, false_or]
      split <;> rfl

theorem keys_insert (m : OrderedMap κ α) (k : κ) (v : α) :
    (m.insert k v).keys = if k ∈ m.keys then m.keys else m.keys ++ [k] := map_fst_insertList k v m.toList

def Distinct (m : OrderedMap κ α) : Prop := m.keys.Nodup

omit [DecidableEq κ] in
theorem distinct_empty : (empty : OrderedMap κ α).Distinct := List.nodup_nil

theorem Distinct.insert {m : OrderedMap κ α} (h : m.Distinct) (k : κ) (v : α) : (m.insert k v).Distinct := by
  unfold Distinct at h ⊢
  rw [keys_insert]
  split
  · exact h
  · next hk => exact List.nodup_append.2 ⟨h, by simp, fun a ha b hb hab => hk (by simp_all)⟩

theorem distinct_foldl_insert (l : List (κ × α)) (m : OrderedMap κ α) (h : m.Distinct) :
    (l.foldl (fun m e => m.insert e.1 e.2) m).Distinct := by
  induction l generalizing m with
  | nil => exact h
  | cons e l ih => exact ih _ (h.insert e.1 e.2)

theorem distinct_ofList (l : List (κ × α)) : (ofList l).Distinct :=
  distinct_foldl_insert l _ distinct_empty

theorem find?_of_mem {l : List (κ × α)} (h : (l.map Prod.fst).Nodup) {e : κ × α} (he : e ∈ l) :
    (l.find? fun d => d.1 = e.1) = some e := by
  induction l with
  | nil => simp at he
  | cons d l ih =>
    rw [List.map_cons, List.nodup_cons] at h
    rcases List.mem_cons.1 he with rfl | he
    · simp
    · have hd : d.1 ≠ e.1 := fun hd => h.1 (hd ▸ List.mem_map_of_mem he)
      simpa [hd] using ih h.2 he

theorem Distinct.get?_of_mem {m : OrderedMap κ α} (h : m.Distinct) {e : κ × α} (he : e ∈ m.toList) :
    m.get? e.1 = some e.2 := by
  rw [get?, find?_of_mem h he]
  rfl

theorem mem_of_get? {m : OrderedMap κ α} {k : κ} {v : α} (h : m.get? k = some v) : (k, v) ∈ m.toList := by
  obtain ⟨e, he, rfl⟩ := Option.map_eq_some_iff.1 h
  have hk : e.1 = k := by simpa using List.find?_some he
  rw [← hk]
  exact List.mem_of_find?_eq_some he

theorem mem_keys_iff {m : OrderedMap κ α} {k : κ} : k ∈ m.keys ↔ ∃ v, m.get? k = some v := by
  constructor
  · intro h
    obtain ⟨e, he, rfl⟩ := List.mem_map.1 h
    rw [← Option.isSome_iff_exists, get?, Option.isSome_map, List.find?_isSome]
    exact ⟨e, he, by simp⟩
  · rintro ⟨v, h⟩
    exact List.mem_map.2 ⟨_, mem_of_get? h, rfl⟩

theorem contains_eq_isSome_get? (m : OrderedMap κ α) (k : κ) : m.contains k = (m.get? k).isSome := by
  rw [contains, get?, Option.isSome_map, Bool.eq_iff_iff]
  simp [List.find?_isSome]

omit [DecidableEq κ] in
theorem keys_empty : (empty : OrderedMap κ α).keys = [] := rfl

theorem keys_foldl_insert (l : List (κ × α)) (m : OrderedMap κ α) :
    (l.foldl (fun m e => m.insert e.1 e.2) m).keys =
      m.keys ++ ((l.map Prod.fst).filter fun k => k ∉ m.keys).eraseDups := by
  induction l generalizing m with
  | nil => simp
  | cons e l ih =>
    rw [List.foldl_cons, ih, keys_insert, List.map_cons]
    by_cases he : e.1 ∈ m.keys
    · simp [he]
    · have hf : ((l.map Prod.fst).filter fun k => k ∉ m.keys ++ [e.1]) =
          ((l.map Prod.fst).filter fun k => k ∉ m.keys).filter fun k => !k == e.1 := by
        rw [List.filter_filter]
        refine List.filter_congr fun k _ => ?_
        by_cases hk : k = e.1 <;> simp [hk, he]
      rw [if_neg he, List.filter_cons_of_pos (by simpa using he), List.eraseDups_cons, hf]
      simp

theorem keys_ofList (l : List (κ × α)) : (ofList l).keys = (l.map Prod.fst).eraseDups := by
  rw [ofList, keys_foldl_insert, keys_empty, List.filter_eq_self.2 (by simp), List.nil_append]

theorem get?_foldl_insert (l : List (κ × α)) (m : OrderedMap κ α) (k : κ) :
    (l.foldl (fun m e => m.insert e.1 e.2) m).get? k = (l.reverse.lookup k).or (m.get? k) := by
  induction l generalizing m with
  | nil => rfl
  | cons e l ih =>
    obtain ⟨j, v⟩ := e
    rw [List.foldl_cons, ih, List.reverse_cons, List.lookup_append, Option.or_assoc, get?_insert]
    by_cases hj : j = k
    · simp [hj]
    · have hk : (k == j) = false := by simpa using Ne.symm hj
      simp [hj, List.lookup_cons, hk]

theorem get?_ofList (l : List (κ × α)) (k : κ) : (ofList l).get? k = l.reverse.lookup k := by
  rw [ofList, get?_foldl_insert, get?_empty, Option.or_none]

theorem Distinct.toList_eq {m : OrderedMap κ α} (h : m.Distinct) :
    m.toList = m.keys.filterMap fun k => (m.get? k).map (Prod.mk k) := by
  rw [keys, List.filterMap_map]
  refine Eq.trans List.filterMap_some.symm (List.filterMap_congr fun e he => ?_)
  simp [h.get?_of_mem he]

theorem Distinct.ext {m m' : OrderedMap κ α} (h : m.Distinct) (hk : m.keys = m'.keys)
    (hg : ∀ k, m.get? k = m'.get? k) : m = m' := by
  have h' : m'.Distinct := by rwa [Distinct, ← hk]
  have hl : m.toList = m'.toList := by rw [h.toList_eq, h'.toList_eq, hk, funext hg]
  cases m
  cases m'
  exact congrArg mk hl

/-- The map holds what was given: every key stands where it was given first, with the value it was
given last. -/
structure Collects (l : List (κ × α)) (m : OrderedMap κ α) : Prop where
  keys_eq : m.keys = (l.map Prod.fst).eraseDups
  get?_eq : ∀ k, m.get? k = l.reverse.lookup k

theorem collects_ofList (l : List (κ × α)) : Collects l (ofList l) := ⟨keys_ofList l, get?_ofList l⟩

theorem Collects.eq_ofList {l : List (κ × α)} {m : OrderedMap κ α} (h : Collects l m) : m = ofList l :=
  .symm <| (distinct_ofList l).ext ((keys_ofList l).trans h.keys_eq.symm) fun k =>
    (get?_ofList l k).trans (h.get?_eq k).symm

theorem insertList_of_notMem {k : κ} {l : List (κ × α)} (h : k ∉ l.map Prod.fst) (v : α) :
    insertList k v l = l ++ [(k, v)] := by
  induction l with
  | nil => rfl
  | cons e l ih =>
    rw [List.map_cons, List.mem_cons, not_or] at h
    rw [insertList, if_neg (Ne.symm h.1), ih h.2]
    rfl

theorem foldl_insert_of_nodup (l : List (κ × α)) (m : OrderedMap κ α)
    (h : ((m.toList ++ l).map Prod.fst).Nodup) :
    l.foldl (fun m e => m.insert e.1 e.2) m = ⟨m.toList ++ l⟩ := by
  induction l generalizing m with
  | nil => simp
  | cons e l ih =>
    have hk : e.1 ∉ m.toList.map Prod.fst := by
      rw [List.map_append, List.map_cons] at h
      exact fun hk => List.disjoint_of_nodup_append h hk List.mem_cons_self
    have hm : (m.insert e.1 e.2).toList = m.toList ++ [e] := insertList_of_notMem hk e.2
    rw [List.foldl_cons, ih _ (by rw [hm]; simpa using h), hm, List.append_assoc]
    rfl

theorem ofList_of_nodup {l : List (κ × α)} (h : (l.map Prod.fst).Nodup) : ofList l = ⟨l⟩ :=
  foldl_insert_of_nodup l empty h

theorem insertList_insertList (k : κ) (v w : α) (l : List (κ × α)) :
    insertList k w (insertList k v l) = insertList k w l := by
  induction l with
  | nil => simp [insertList]
  | cons e l ih =>
    by_cases he : e.1 = k
    · simp [insertList, he]
    · simp only [insertList, if_neg he, ih]

theorem insert_insert (m : OrderedMap κ α) (k : κ) (v w : α) : (m.insert k v).insert k w = m.insert k w :=
  congrArg mk (insertList_insertList k v w m.toList)

theorem insertList_of_find? {k : κ} {v : α} {l : List (κ × α)}
    (h : (l.find? fun e => e.1 = k).map (·.2) = some v) : insertList k v l = l := by
  induction l with
  | nil => simp at h
  | cons e l ih =>
    by_cases he : e.1 = k
    · simp only [List.find?_cons, he, decide_true, Option.map_some, Option.some.injEq] at h
      rw [insertList, if_pos he, ← he, ← h]
    · simp only [List.find?_cons, he, decide_false] at h
      rw [insertList, if_neg he, ih h]

theorem insert_of_get? {m : OrderedMap κ α} {k : κ} {v : α} (h : m.get? k = some v) : m.insert k v = m :=
  congrArg mk (insertList_of_find? h)

theorem Distinct.ofList_toList {m : OrderedMap κ α} (h : m.Distinct) : ofList m.toList = m := ofList_of_nodup h

theorem mem_of_mem_ofList {l : List (κ × α)} {e : κ × α} (h : e ∈ (ofList l).toList) : e ∈ l := by
  have hg := (distinct_ofList l).get?_of_mem h
  rw [get?_ofList] at hg
  obtain ⟨_, _, hl, -⟩ := List.lookup_eq_some_iff.1 hg
  rw [← List.mem_reverse, hl]
  simp

end OrderedMap

end ToolPipeline
