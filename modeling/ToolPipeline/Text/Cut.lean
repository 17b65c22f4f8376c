set_option autoImplicit false

/-!
Cutting a text at the occurrences of a separator.
`cut_eq_some` says that nothing is lost, and every other cut of the library is built on `cut`.
-/

namespace ToolPipeline.Text

def find? (sep : List Char) : List Char → Option Nat
  | [] => if sep.isEmpty then some 0 else none
  | c :: s => if sep.isPrefixOf (c :: s) then some 0 else (find? sep s).map (· + 1)

theorem length_drop_lt_of_find?_eq_some {sep s : List Char} {i n : Nat} (hs : sep ≠ []) (h : find? sep s = some i)
    (hn : 0 < n) : (s.drop n).length < s.length := by
  cases s with
  | nil => simp [find?, hs] at h
  | cons c s =>
    rw [List.length_drop, List.length_cons]
    omega

def cut (sep : List Char) : List Char → Option (List Char × List Char)
  | [] => if sep.isEmpty then some ([], []) else none
  | c :: s =>
    if sep.isPrefixOf (c :: s) then some ([], (c :: s).drop sep.length)
    else (cut sep s).map fun p => (c :: p.1, p.2)

theorem cut_eq_some {sep s a b : List Char} (h : cut sep s = some (a, b)) : s = a ++ sep ++ b := by
  induction s generalizing a b with
  | nil =>
    cases sep with
    | nil => simp [cut] at h; simp [h]
    | cons => simp [cut] at h
  | cons c s ih =>
    by_cases hp : sep.isPrefixOf (c :: s) = true
    · simp only [cut, hp, if_true, Option.some.injEq, Prod.mk.injEq] at h
      obtain ⟨t, ht⟩ := List.isPrefixOf_iff_prefix.1 hp
      rw [← h.1, ← h.2, ← ht]
      simp
    · simp only [cut, hp, Bool.false_eq_true, if_false, Option.map_eq_some_iff, Prod.mk.injEq] at h
      obtain ⟨⟨x, y⟩, hxy, hx, hy⟩ := h
      simp only at hx hy
      subst hx hy
      rw [ih hxy]; simp

theorem length_of_cut_eq_some {sep s a b : List Char} (h : cut sep s = some (a, b)) :
    s.length = a.length + sep.length + b.length := by
  rw [cut_eq_some h]; simp; omega

theorem length_lt_of_cut_eq_some {sep s a b : List Char} (hs : sep ≠ []) (h : cut sep s = some (a, b)) :
    b.length < s.length := by
  have := length_of_cut_eq_some h
  have := List.length_pos_iff.2 hs
  omega

/-- The pieces of a text between the occurrences of `sep`, scanned from the left.
An empty separator takes the text apart into its characters. -/
def split (sep : List Char) (s : List Char) : List (List Char) :=
  if hs : sep = [] then s.map fun c => [c]
  else
    match h : cut sep s with
    | none => [s]
    | some (a, b) =>
      have : b.length < s.length := length_lt_of_cut_eq_some hs h
      a :: split sep b
  termination_by s.length

def fragments (sep s : String) : List String :=
  ((split sep.toList s.toList).filter fun f => !f.isEmpty).map String.ofList

/-- Cuts a text into lines; a line feed closes a line, and a carriage return before it belongs to it. -/
def lines.go (acc : List (List Char)) (line : List Char) : List Char → List (List Char)
  | [] => (if line.isEmpty then acc else line.reverse :: acc).reverse
  | '\n' :: s =>
    go ((match line with
      | '\r' :: l => l.reverse
      | l => l.reverse) :: acc) [] s
  | c :: s => go acc (c :: line) s

def lines (s : List Char) : List (List Char) := lines.go [] [] s

end ToolPipeline.Text
