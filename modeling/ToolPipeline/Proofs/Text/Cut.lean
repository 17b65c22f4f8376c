import Mathlib.Data.List.Infix
import ToolPipeline.Text.Cut

set_option autoImplicit false

/-! A text is cut at the first occurrence of the separator, and is left whole when there is none. -/

namespace ToolPipeline.Text

variable {sep s a b : List Char}

theorem cut_eq_map_find? (sep s : List Char) :
    cut sep s = (find? sep s).map fun i => (s.take i, s.drop (i + sep.length)) := by
  induction s with
  | nil => cases sep <;> simp [cut, find?]
  | cons c s ih =>
    by_cases hp : sep.isPrefixOf (c :: s) = true
    · simp [cut, find?, hp]
    · simp only [cut, find?, hp, Bool.false_eq_true, if_false, ih, Option.map_map]
      congr 1
      funext i
      simp [Nat.add_right_comm i 1 sep.length]

theorem find?_eq_none_iff : find? sep s = none ↔ cut sep s = none := by
  rw [cut_eq_map_find?, Option.map_eq_none_iff]

theorem cut_of_find? {i : Nat} (h : find? sep s = some i) : cut sep s = some (s.take i, s.drop (i + sep.length)) := by
  rw [cut_eq_map_find?, h, Option.map_some]

theorem cut_eq_none_iff : cut sep s = none ↔ ¬ sep <:+: s := by
  induction s with
  | nil => cases sep <;> simp [cut]
  | cons c s ih =>
    simp only [cut, List.infix_cons_iff, not_or, ← ih, ← List.isPrefixOf_iff_prefix]
    cases hp : sep.isPrefixOf (c :: s) <;> simp

theorem length_le_of_cut {x y : List Char} (h : cut sep s = some (a, b)) (hs : s = x ++ sep ++ y) :
    a.length ≤ x.length := by
  induction s generalizing a x with
  | nil =>
    have := length_of_cut_eq_some h
    simp only [List.length_nil] at this
    omega
  | cons c s ih =>
    by_cases hp : sep.isPrefixOf (c :: s) = true
    · simp only [cut, hp, if_true, Option.some.injEq, Prod.mk.injEq] at h
      simp [← h.1]
    · simp only [cut, hp, Bool.false_eq_true, if_false, Option.map_eq_some_iff, Prod.mk.injEq] at h
      obtain ⟨⟨a', b'⟩, hc, rfl, rfl⟩ := h
      cases x with
      | nil => exact absurd (List.isPrefixOf_iff_prefix.2 ⟨y, by simpa using hs.symm⟩) hp
      | cons d x =>
        simp only [List.cons_append, List.cons.injEq] at hs
        exact Nat.succ_le_succ (ih hc hs.2)

/-- A text is cut where the separator occurs first. -/
theorem cut_eq_some_iff :
    cut sep s = some (a, b) ↔ s = a ++ sep ++ b ∧ ∀ x y, s = x ++ sep ++ y → a.length ≤ x.length := by
  refine ⟨fun h => ⟨cut_eq_some h, fun x y => length_le_of_cut h⟩, fun ⟨hs, hf⟩ => ?_⟩
  cases hc : cut sep s with
  | none => exact absurd ⟨a, b, hs.symm⟩ (cut_eq_none_iff.1 hc)
  | some p =>
    obtain ⟨a', b'⟩ := p
    have hs' := cut_eq_some hc
    have hl : a.length = a'.length := Nat.le_antisymm (hf _ _ hs') (length_le_of_cut hc hs)
    rw [hs, List.append_assoc, List.append_assoc] at hs'
    obtain ⟨rfl, h⟩ := List.append_inj hs' hl
    rw [List.append_cancel_left h]

theorem cut_singleton_eq_none_iff {c : Char} : cut [c] s = none ↔ c ∉ s := by
  rw [cut_eq_none_iff, List.singleton_infix_iff]

theorem cut_singleton_eq_some_iff {c : Char} :
    cut [c] s = some (a, b) ↔ s = a ++ c :: b ∧ c ∉ a := by
  rw [cut_eq_some_iff]
  constructor
  · rintro ⟨rfl, hf⟩
    refine ⟨by simp, fun hc => ?_⟩
    obtain ⟨x, y, rfl⟩ := List.append_of_mem hc
    have := hf x (y ++ [c] ++ b) (by simp)
    simp only [List.length_append, List.length_cons] at this
    omega
  · rintro ⟨rfl, hc⟩
    refine ⟨by simp, fun x y h => ?_⟩
    by_contra hl
    have hx : x.length < a.length := Nat.lt_of_not_le hl
    have hm : (a ++ c :: b)[x.length]? = some c := by simp [h]
    rw [List.getElem?_append_left hx] at hm
    exact hc (List.mem_of_getElem? hm)

end ToolPipeline.Text
