import ToolPipeline.Text.Cut

set_option autoImplicit false

/-! Lines that are put together with their ends are found again. -/

namespace ToolPipeline.Text

/-- The lines one after the other, each with its end. The last one may go without. -/
inductive Ended : List (List Char) → List Char → Prop
  | nil : Ended [] []
  | unended (l : List Char) : Ended [l] l
  | cons {l e s : List Char} {ls : List (List Char)} : e = ['\n'] ∨ e = ['\r', '\n'] → Ended ls s →
      Ended (l :: ls) (l ++ (e ++ s))

variable {l s : List Char} {ls : List (List Char)}

theorem linesGo_acc (acc : List (List Char)) (line s : List Char) :
    lines.go acc line s = acc.reverse ++ lines.go [] line s := by
  induction s generalizing acc line with
  | nil =>
    simp only [lines.go]
    split <;> simp
  | cons c s ih =>
    by_cases hc : c = '\n'
    · subst hc
      by_cases hl : ∃ l, line = '\r' :: l
      · obtain ⟨l, rfl⟩ := hl
        simp only [lines.go]
        rw [ih, ih [_]]
        simp
      · have hno : ∀ l, line = '\r' :: l → False := fun l h => hl ⟨l, h⟩
        rw [lines.go.eq_3 _ _ _ hno, lines.go.eq_3 _ _ _ hno, ih, ih [_]]
        simp
    · rw [lines.go.eq_4 _ _ _ _ hc, lines.go.eq_4 _ _ _ _ hc, ih]

theorem linesGo_append (h : '\n' ∉ l) (line s : List Char) :
    lines.go [] line (l ++ s) = lines.go [] (l.reverse ++ line) s := by
  induction l generalizing line with
  | nil => rfl
  | cons c l ih =>
    obtain ⟨hc, hl⟩ := not_or.1 (mt List.mem_cons.2 h)
    rw [List.cons_append, lines.go.eq_4 _ _ _ _ fun h => hc h.symm, ih hl]
    simp

theorem lines_append_feed (hn : '\n' ∉ l) (hr : '\r' ∉ l) (s : List Char) :
    lines (l ++ ('\n' :: s)) = l :: lines s := by
  have hno : ∀ x, l.reverse = '\r' :: x → False := by
    intro x hx
    have hm : '\r' ∈ l.reverse := by simp [hx]
    exact hr (List.mem_reverse.1 hm)
  rw [lines, linesGo_append hn, List.append_nil, lines.go.eq_3 _ _ _ hno, linesGo_acc]
  simp [lines]

theorem lines_append_return (hn : '\n' ∉ l) (s : List Char) : lines (l ++ ('\r' :: '\n' :: s)) = l :: lines s := by
  have hline : '\n' ∉ l ++ ['\r'] := by simpa using hn
  have hs : l ++ ('\r' :: '\n' :: s) = (l ++ ['\r']) ++ ('\n' :: s) := by simp
  rw [hs, lines, linesGo_append hline, List.append_nil, List.reverse_append, List.reverse_singleton,
    List.singleton_append, lines.go.eq_2, linesGo_acc]
  simp [lines]

theorem lines_of_notMem (h : '\n' ∉ l) (hne : l ≠ []) : lines l = [l] := by
  have hl := linesGo_append h [] []
  rw [List.append_nil, List.append_nil] at hl
  rw [lines, hl]
  simp [lines.go, hne]

/-- Only an empty last line without an end does not show. -/
theorem lines_of_ended (h : Ended ls s) (hl : ∀ l ∈ ls, '\n' ∉ l ∧ '\r' ∉ l) :
    ls = lines s ∨ ls = lines s ++ [[]] := by
  induction h with
  | nil => exact .inl rfl
  | unended l =>
    by_cases hne : l = []
    · subst hne
      exact .inr rfl
    · exact .inl (lines_of_notMem (hl l List.mem_cons_self).1 hne).symm
  | @cons l e s ls he _ ih =>
    obtain ⟨⟨hn, hr⟩, hls⟩ := List.forall_mem_cons.1 hl
    have hfirst : lines (l ++ (e ++ s)) = l :: lines s := by
      rcases he with rfl | rfl
      · exact lines_append_feed hn hr s
      · exact lines_append_return hn s
    rw [hfirst, List.cons_append, List.cons.injEq, List.cons.injEq]
    exact (ih hls).imp (⟨rfl, ·⟩) (⟨rfl, ·⟩)

end ToolPipeline.Text
