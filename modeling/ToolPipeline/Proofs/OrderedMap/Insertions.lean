import Mathlib.Data.Finset.Card
import ToolPipeline.Proofs.OrderedMap

set_option autoImplicit false

/-!
What a map holds after a history of insertions. `Remembers` says it of the history alone: the keys stand in the
order in which they came first, and the value under each is the one that came last. One insertion more keeps it
true, so it holds behind every history, and it leaves no choice of the map.
-/

namespace ToolPipeline.OrderedMap

variable {κ α : Type} [DecidableEq κ] {l l' more : List (κ × α)} {m m' : OrderedMap κ α} {ks ks' : List κ} {k : κ}
  {v : α}

/-- The keys of these insertions, in the order in which each was inserted first. -/
structure FirstInserted (l : List (κ × α)) (ks : List κ) : Prop where
  mem_iff : ∀ k, k ∈ ks ↔ k ∈ l.map Prod.fst
  in_order : ks.Pairwise fun j k => (l.map Prod.fst).idxOf j < (l.map Prod.fst).idxOf k

def InsertedLast (l : List (κ × α)) (k : κ) (v : α) : Prop :=
  ∃ front back, l = front ++ (k, v) :: back ∧ k ∉ back.map Prod.fst

namespace FirstInserted

theorem nodup (h : FirstInserted l ks) : ks.Nodup :=
  h.in_order.imp fun hlt he => by simp [he] at hlt

theorem nil : FirstInserted ([] : List (κ × α)) [] := ⟨fun _ => Iff.rfl, List.Pairwise.nil⟩

theorem concat (h : FirstInserted l ks) (k : κ) (v : α) :
    FirstInserted (l ++ [(k, v)]) (if k ∈ ks then ks else ks ++ [k]) := by
  have hplace {j : κ} (hj : j ∈ ks) : ((l ++ [(k, v)]).map Prod.fst).idxOf j = (l.map Prod.fst).idxOf j := by
    rw [List.map_append, List.idxOf_append, if_pos ((h.mem_iff j).1 hj)]
  have hold : ks.Pairwise fun i j =>
      ((l ++ [(k, v)]).map Prod.fst).idxOf i < ((l ++ [(k, v)]).map Prod.fst).idxOf j := by
    refine h.in_order.imp_of_mem fun hi hj hlt => ?_
    rw [hplace hi, hplace hj]
    exact hlt
  by_cases hk : k ∈ ks
  · rw [if_pos hk]
    refine ⟨fun j => ?_, hold⟩
    rw [h.mem_iff, List.map_append, List.mem_append, List.map_singleton, List.mem_singleton]
    exact ⟨.inl, fun hj => hj.elim id fun hj => hj ▸ (h.mem_iff k).1 hk⟩
  · rw [if_neg hk]
    refine ⟨fun j => by simp [h.mem_iff], List.pairwise_append.2 ⟨hold, by simp, fun i hi j hj => ?_⟩⟩
    have hnew : k ∉ l.map Prod.fst := fun hmem => hk ((h.mem_iff k).2 hmem)
    have hi' : (l.map Prod.fst).idxOf i < l.length := by
      simpa using List.idxOf_lt_length_of_mem ((h.mem_iff i).1 hi)
    rw [List.mem_singleton.1 hj, hplace hi, List.map_append, List.idxOf_append, if_neg hnew]
    simpa using hi'

theorem unique (h : FirstInserted l ks) (h' : FirstInserted l ks') : ks = ks' := by
  have hperm : ks.Perm ks' := (List.perm_ext_iff_of_nodup h.nodup h'.nodup).2 fun k =>
    (h.mem_iff k).trans (h'.mem_iff k).symm
  exact hperm.eq_of_pairwise (fun _ _ _ _ hlt hlt' => absurd hlt' (Nat.lt_asymm hlt)) h.in_order h'.in_order

end FirstInserted

namespace InsertedLast

omit [DecidableEq κ] in
theorem not_nil : ¬ InsertedLast ([] : List (κ × α)) k v := by
  rintro ⟨front, back, h, -⟩
  simp at h

theorem concat_iff {j : κ} {w : α} :
    InsertedLast (l ++ [(k, v)]) j w ↔ if k = j then w = v else InsertedLast l j w := by
  constructor
  · rintro ⟨front, back, h, hj⟩
    rcases List.eq_nil_or_concat back with rfl | ⟨back, e, rfl⟩
    · obtain ⟨-, he⟩ := List.append_inj' h rfl
      simp only [List.cons.injEq, Prod.mk.injEq, and_true] at he
      rw [if_pos he.1]
      exact he.2.symm
    · rw [List.concat_eq_append, ← List.cons_append, ← List.append_assoc] at h
      obtain ⟨hl, he⟩ := List.append_inj' h rfl
      simp only [List.cons.injEq, and_true] at he
      rw [List.concat_eq_append, List.map_append, List.mem_append, not_or, ← he] at hj
      rw [if_neg fun hkj => hj.2 (by simp [hkj])]
      exact ⟨front, back, hl, hj.1⟩
  · intro h
    by_cases hkj : k = j
    · rw [if_pos hkj] at h
      exact ⟨l, [], by rw [hkj, h], List.not_mem_nil⟩
    · rw [if_neg hkj] at h
      obtain ⟨front, back, rfl, hj⟩ := h
      exact ⟨front, back ++ [(k, v)], by simp, by simpa [hj] using Ne.symm hkj⟩

end InsertedLast

structure Remembers (l : List (κ × α)) (m : OrderedMap κ α) : Prop where
  keys : FirstInserted l m.keys
  get?_iff : ∀ k v, m.get? k = some v ↔ InsertedLast l k v

namespace Remembers

theorem empty : Remembers ([] : List (κ × α)) .empty :=
  ⟨.nil, fun _ _ => ⟨nofun, fun h => absurd h InsertedLast.not_nil⟩⟩

theorem insert (h : Remembers l m) (k : κ) (v : α) : Remembers (l ++ [(k, v)]) (m.insert k v) := by
  refine ⟨by rw [keys_insert]; exact h.keys.concat k v, fun j w => ?_⟩
  rw [get?_insert, InsertedLast.concat_iff]
  split
  · rw [Option.some.injEq, eq_comm]
  · exact h.get?_iff j w

theorem foldl_insert (h : Remembers l m) (more : List (κ × α)) :
    Remembers (l ++ more) (more.foldl (fun m e => m.insert e.1 e.2) m) := by
  induction more generalizing l m with
  | nil => rwa [List.append_nil]
  | cons e more ih =>
    have hmore := ih (h.insert e.1 e.2)
    rwa [List.append_assoc] at hmore

theorem ofList (l : List (κ × α)) : Remembers l (OrderedMap.ofList l) := by
  have h := (empty (κ := κ) (α := α)).foldl_insert l
  rwa [List.nil_append] at h

theorem distinct (h : Remembers l m) : m.Distinct := h.keys.nodup

theorem get?_eq_none_iff (h : Remembers l m) (k : κ) : m.get? k = none ↔ k ∉ l.map Prod.fst := by
  rw [← h.keys.mem_iff, mem_keys_iff, Option.eq_none_iff_forall_ne_some, not_exists]

theorem size_eq (h : Remembers l m) : m.size = (l.map Prod.fst).toFinset.card := by
  have hkeys : m.keys.toFinset = (l.map Prod.fst).toFinset := by
    ext k
    rw [List.mem_toFinset, List.mem_toFinset, h.keys.mem_iff]
  rw [← hkeys, List.toFinset_card_of_nodup h.keys.nodup, OrderedMap.keys, List.length_map, size]

theorem eq_iff (h : Remembers l m) (h' : Remembers l' m') :
    m = m' ↔ (∀ ks, FirstInserted l ks ↔ FirstInserted l' ks) ∧ ∀ k v, InsertedLast l k v ↔ InsertedLast l' k v := by
  constructor
  · rintro rfl
    refine ⟨fun ks => ⟨fun hks => ?_, fun hks => ?_⟩, fun k v => (h.get?_iff k v).symm.trans (h'.get?_iff k v)⟩
    · rw [hks.unique h.keys]
      exact h'.keys
    · rw [hks.unique h'.keys]
      exact h.keys
  · rintro ⟨hfirst, hlast⟩
    refine h.distinct.ext (((hfirst _).1 h.keys).unique h'.keys) fun k => Option.ext fun v => ?_
    rw [h.get?_iff, h'.get?_iff, hlast]

end Remembers

structure Recalls (l : List (κ × α)) (m : OrderedMap κ α) : Prop where
  distinct : m.keys.Nodup
  keys : FirstInserted l m.keys
  get?_eq_some_iff : ∀ k v, m.get? k = some v ↔ InsertedLast l k v
  get?_eq_none_iff : ∀ k, m.get? k = none ↔ k ∉ l.map Prod.fst
  contains_eq : ∀ k, m.contains k = (m.get? k).isSome
  size_eq : m.size = (l.map Prod.fst).toFinset.card
  rebuilt : ofList m.toList = m
  eq_ofList_iff : ∀ l', m = ofList l' ↔
    (∀ ks, FirstInserted l ks ↔ FirstInserted l' ks) ∧ ∀ k v, InsertedLast l k v ↔ InsertedLast l' k v

/-- A map to which entries are added, of those that it was built from and of those that were added. -/
theorem recalls_insertions (given more : List (κ × α)) :
    Recalls (given ++ more) (more.foldl (fun m e => m.insert e.1 e.2) (ofList given)) := by
  have h := (Remembers.ofList given).foldl_insert more
  exact ⟨h.keys.nodup, h.keys, h.get?_iff, h.get?_eq_none_iff, contains_eq_isSome_get? _, h.size_eq,
    h.distinct.ofList_toList, fun l' => h.eq_iff (.ofList l')⟩

/-- A key that is given again keeps its place. -/
example : (ofList [("a", "1"), ("b", "2"), ("a", "3")]).toList = [("a", "3"), ("b", "2")] := by decide

end ToolPipeline.OrderedMap
