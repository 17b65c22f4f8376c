import Mathlib.Data.List.TakeWhile
import ToolPipeline.Text.Blank

set_option autoImplicit false

/-! Runs of blanks and of other characters, and where they end. -/

namespace ToolPipeline.Text

def Blank (s : List Char) : Prop := ∀ c ∈ s, isBlank c = true

instance (s : List Char) : Decidable (Blank s) :=
  decidable_of_iff (s.all isBlank = true) List.all_eq_true

theorem blank_nil : Blank [] := by simp [Blank]

theorem Blank.append {s t : List Char} (hs : Blank s) (ht : Blank t) : Blank (s ++ t) := fun c hc =>
  (List.mem_append.1 hc).elim (hs c) (ht c)

theorem dropBlanks_append {gap s : List Char} (hg : Blank gap) (hs : ∀ c ∈ s.head?, isBlank c = false) :
    dropBlanks (gap ++ s) = s := by
  unfold dropBlanks
  rw [List.dropWhile_append_of_pos hg]
  cases s with
  | nil => rfl
  | cons c s => rw [List.dropWhile_cons_of_neg (by simp [hs c rfl])]

theorem exists_eq_append_dropBlanks (s : List Char) : ∃ gap, s = gap ++ dropBlanks s ∧ Blank gap :=
  ⟨s.takeWhile isBlank, List.takeWhile_append_dropWhile.symm, fun _ h => List.mem_takeWhile_imp h⟩

theorem eq_false_of_mem_head?_dropWhile {p : Char → Bool} {s : List Char} {c : Char}
    (h : c ∈ (s.dropWhile p).head?) : p c = false := by
  have := List.head?_dropWhile_not p s
  rw [Option.mem_def.1 h] at this
  simpa using this

theorem isBlank_of_mem_head?_dropBlanks {s : List Char} {c : Char} (h : c ∈ (dropBlanks s).head?) :
    isBlank c = false := eq_false_of_mem_head?_dropWhile h

theorem takeWhile_run {p : Char → Bool} {w rest : List Char} (hw : ∀ c ∈ w, p c = true)
    (hr : ∀ c ∈ rest.head?, p c = false) :
    (w ++ rest).takeWhile p = w ∧ (w ++ rest).dropWhile p = rest := by
  rw [List.takeWhile_append_of_pos hw, List.dropWhile_append_of_pos hw]
  cases rest with
  | nil => simp
  | cons c r => simp [hr c rfl]

theorem trim_isEmpty_iff {s : String} : (trim s).isEmpty = true ↔ ∀ c ∈ s.toList, isBlank c = true := by
  have hs : (trim s).isEmpty = true ↔ ∀ c ∈ dropBlanks s.toList, isBlank c = true := by
    simp [trim, dropBlanksEnd, List.dropWhile_eq_nil_iff]
  have hn : dropBlanks s.toList = [] ↔ ∀ c ∈ s.toList, isBlank c = true := List.dropWhile_eq_nil_iff
  rw [hs, ← hn]
  constructor
  · -- What is left in front of the end would begin with a character that is not blank.
    intro h
    by_contra hne
    have hfirst : isBlank ((dropBlanks s.toList).head hne) = false := List.head_dropWhile_not isBlank hne
    rw [h _ (List.head_mem hne)] at hfirst
    cases hfirst
  · intro h c hc
    rw [h] at hc
    cases hc

end ToolPipeline.Text
