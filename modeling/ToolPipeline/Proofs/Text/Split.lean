import ToolPipeline.Proofs.Text.Cut

set_option autoImplicit false

/-!
The pieces of a text between separators. Put together again they give the text, and pieces put together
are found again if no occurrence of the separator begins inside one of them. A separator may overlap
itself, so what stands behind a piece has a say in this.
-/

namespace ToolPipeline.Text

variable {sep s a b rest : List Char}

theorem split_of_cut_eq_none (hs : sep ≠ []) (h : cut sep s = none) : split sep s = [s] := by
  rw [split, dif_neg hs]
  split
  · rfl
  · next hc => cases h.symm.trans hc

theorem split_of_cut_eq_some (hs : sep ≠ []) (h : cut sep s = some (a, b)) :
    split sep s = a :: split sep b := by
  rw [split, dif_neg hs]
  split
  · next hc => cases h.symm.trans hc
  · next hc =>
    cases h.symm.trans hc
    rfl

theorem split_ne_nil (hs : sep ≠ []) (s : List Char) : split sep s ≠ [] := by
  cases h : cut sep s with
  | none => simp [split_of_cut_eq_none hs h]
  | some p => simp [split_of_cut_eq_some hs h]

theorem split_of_notMem {c : Char} (h : c ∉ s) : split [c] s = [s] :=
  split_of_cut_eq_none (by simp) (cut_singleton_eq_none_iff.2 h)

theorem split_nil (hs : sep ≠ []) : split sep [] = [[]] :=
  split_of_cut_eq_none hs (cut_eq_none_iff.2 (by simpa using hs))

theorem split_cons_self (c : Char) (s : List Char) : split [c] (c :: s) = [] :: split [c] s :=
  split_of_cut_eq_some (by simp) (cut_singleton_eq_some_iff.2 ⟨rfl, by simp⟩)

theorem split_cons_of_ne {c d : Char} (h : d ≠ c) (s : List Char) :
    split [c] (d :: s) = (split [c] s).modifyHead (d :: ·) := by
  have hd : cut [c] (d :: s) = (cut [c] s).map fun p => (d :: p.1, p.2) := by
    rw [cut, if_neg (by simpa [List.isPrefixOf] using Ne.symm h)]
  cases hc : cut [c] s with
  | none =>
    rw [hc] at hd
    rw [split_of_cut_eq_none (by simp) hd, split_of_cut_eq_none (by simp) hc, List.modifyHead_cons]
  | some p =>
    rw [hc] at hd
    rw [split_of_cut_eq_some (by simp) hd, split_of_cut_eq_some (by simp) hc, List.modifyHead_cons]

theorem split_append_cons (c : Char) (a b : List Char) :
    split [c] (a ++ c :: b) = split [c] a ++ split [c] b := by
  cases h : cut [c] a with
  | none =>
    have hc := cut_singleton_eq_none_iff.1 h
    rw [split_of_notMem hc, split_of_cut_eq_some (by simp) (cut_singleton_eq_some_iff.2 ⟨rfl, hc⟩)]
    rfl
  | some p =>
    obtain ⟨x, y⟩ := p
    obtain ⟨ha, hx⟩ := cut_singleton_eq_some_iff.1 h
    have hab : cut [c] (a ++ c :: b) = some (x, y ++ c :: b) :=
      cut_singleton_eq_some_iff.2 ⟨by rw [ha]; simp, hx⟩
    rw [split_of_cut_eq_some (by simp) h, split_of_cut_eq_some (by simp) hab, split_append_cons c y b,
      List.cons_append]
  termination_by a.length
  decreasing_by exact length_lt_of_cut_eq_some (by simp) h

/-- No occurrence of the separator in `s ++ rest` begins in `s`. -/
def Whole (sep s rest : List Char) : Prop := ∀ x y, s ++ rest = x ++ sep ++ y → s.length ≤ x.length

theorem whole_of_cut_eq_none (h : cut sep s = none) : Whole sep s [] := by
  intro x y hxy
  rw [List.append_nil] at hxy
  exact absurd ⟨x, y, hxy.symm⟩ (cut_eq_none_iff.1 h)

theorem Whole.cut_eq_none (h : Whole sep s []) (hs : sep ≠ []) : cut sep s = none := by
  refine cut_eq_none_iff.2 ?_
  rintro ⟨x, y, rfl⟩
  have hl := h x y (List.append_nil _)
  have := List.length_pos_iff.2 hs
  simp only [List.length_append] at hl
  omega

theorem whole_of_cut_eq_some (h : cut sep s = some (a, b)) : Whole sep a sep := by
  intro x y hxy
  refine length_le_of_cut h (y := y ++ b) ?_
  rw [cut_eq_some h, hxy]
  simp

theorem Whole.cut_append (h : Whole sep s sep) (rest : List Char) :
    cut sep (s ++ sep ++ rest) = some (s, rest) := by
  refine cut_eq_some_iff.2 ⟨rfl, fun x y hxy => ?_⟩
  by_contra hl
  have hle : (x ++ sep).length ≤ (s ++ sep).length := by
    simp only [List.length_append]
    omega
  have hp : x ++ sep <+: s ++ sep :=
    List.prefix_of_prefix_length_le ⟨y, hxy.symm⟩ (List.prefix_append _ rest) hle
  obtain ⟨z, hz⟩ := hp
  exact hl (h x z hz.symm)

theorem Whole.alone (h : Whole sep s sep) : Whole sep s [] := by
  intro x y hxy
  refine h x (y ++ sep) ?_
  rw [List.append_nil] at hxy
  rw [hxy]
  simp

theorem Whole.of_append (h : Whole sep (a ++ b) rest) : Whole sep b rest := by
  intro x y hxy
  have hl := h (a ++ x) y (by rw [List.append_assoc, hxy]; simp)
  simp only [List.length_append] at hl
  omega

/-- Texts that a separator between them keeps apart. -/
inductive Apart (sep : List Char) : List (List Char) → Prop
  | nil : Apart sep []
  | last {s : List Char} (h : Whole sep s []) : Apart sep [s]
  | cons {s : List Char} {l : List (List Char)} (h : Whole sep s sep) (hl : Apart sep l) : Apart sep (s :: l)

theorem apart_split (hs : sep ≠ []) (s : List Char) : Apart sep (split sep s) := by
  cases h : cut sep s with
  | none =>
    rw [split_of_cut_eq_none hs h]
    exact .last (whole_of_cut_eq_none h)
  | some p =>
    rw [split_of_cut_eq_some hs h]
    exact .cons (whole_of_cut_eq_some h) (apart_split hs p.2)
  termination_by s.length
  decreasing_by exact length_lt_of_cut_eq_some hs h

theorem Apart.filter {l : List (List Char)} (h : Apart sep l) (p : List Char → Bool) :
    Apart sep (l.filter p) := by
  induction h with
  | nil => exact .nil
  | @last s h =>
    rw [List.filter_singleton]
    cases p s with
    | false => exact .nil
    | true => exact .last h
  | @cons s l h _ ih =>
    rw [List.filter_cons]
    split
    · exact .cons h ih
    · exact ih

theorem Apart.congr {l m : List (List Char)} (h : Apart sep l)
    (hm : List.Forall₂ (fun s t => ∀ rest, Whole sep s rest → Whole sep t rest) l m) : Apart sep m := by
  induction h generalizing m with
  | nil => cases hm; exact .nil
  | last h =>
    obtain _ | ⟨ht, hm⟩ := hm
    cases hm
    exact .last (ht _ h)
  | cons h _ ih =>
    obtain _ | ⟨ht, hm⟩ := hm
    exact .cons (ht _ h) (ih hm)

theorem Apart.split_intercalate {l : List (List Char)} (h : Apart sep l) (hs : sep ≠ []) (hl : l ≠ []) :
    split sep (sep.intercalate l) = l := by
  induction h with
  | nil => exact absurd rfl hl
  | last h => rw [List.intercalate_singleton, split_of_cut_eq_none hs (h.cut_eq_none hs)]
  | @cons s l h _ ih =>
    cases l with
    | nil => rw [List.intercalate_singleton, split_of_cut_eq_none hs (h.alone.cut_eq_none hs)]
    | cons t l => rw [List.intercalate_cons_cons, split_of_cut_eq_some hs (h.cut_append _), ih (by simp)]

theorem apart_fragments {sep : String} (hs : sep ≠ "") (s : String) :
    Apart sep.toList ((fragments sep s).map String.toList) := by
  have hf : (fragments sep s).map String.toList =
      (split sep.toList s.toList).filter fun f => !f.isEmpty := by simp [fragments]
  rw [hf]
  exact (apart_split (by simpa using hs) _).filter _

/-- Fragments that were put together with a separator are found again. -/
theorem fragments_intercalate {sep : String} {l : List String} (hs : sep ≠ "") (hne : ∀ f ∈ l, f ≠ "")
    (h : Apart sep.toList (l.map String.toList)) : fragments sep (sep.intercalate l) = l := by
  have hs' : sep.toList ≠ [] := by simpa using hs
  unfold fragments
  rw [String.toList_intercalate]
  cases l with
  | nil => simp [split_nil hs']
  | cons f l =>
    rw [h.split_intercalate hs' (by simp), List.filter_eq_self.2, List.map_map]
    · simp
    · intro t ht
      obtain ⟨f, hf, rfl⟩ := List.mem_map.1 ht
      simpa using hne f hf

/-- An empty separator takes a text apart into its characters. -/
theorem fragments_empty (s : String) : fragments "" s = s.toList.map fun c => String.ofList [c] := by
  simp [fragments, split, List.filter_eq_self.2]

theorem intercalate_fragments_empty (s : String) : "".intercalate (fragments "" s) = s := by
  have h (l : List Char) : [].intercalate (l.map fun c => [c]) = l := by
    induction l with
    | nil => rfl
    | cons c l ih => cases l <;> simp_all [List.intercalate_cons_cons]
  rw [← String.toList_inj, String.toList_intercalate, fragments_empty, List.map_map]
  simpa [Function.comp_def] using h s.toList

end ToolPipeline.Text
