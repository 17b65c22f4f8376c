set_option autoImplicit false

/-!
Blank characters and what separates words.
-/

namespace ToolPipeline.Text

/-- The characters with the Unicode property White_Space. -/
def isBlank (c : Char) : Bool :=
  let n := c.toNat
  (9 ≤ n && n ≤ 13) || n == 0x20 || n == 0x85 || n == 0xA0 || n == 0x1680 ||
    (0x2000 ≤ n && n ≤ 0x200A) || n == 0x2028 || n == 0x2029 || n == 0x202F || n == 0x205F || n == 0x3000

def dropBlanks (s : List Char) : List Char := s.dropWhile isBlank

def dropBlanksEnd (s : List Char) : List Char := (s.reverse.dropWhile isBlank).reverse

def trim (s : String) : String := String.ofList (dropBlanksEnd (dropBlanks s.toList))

def trimEnd (s : String) : String := String.ofList (dropBlanksEnd s.toList)

/-- Number of maximal runs of characters that are not blank; `inside` tells whether one is open. -/
def countWords.go (inside : Bool) (n : Nat) : List Char → Nat
  | [] => n
  | c :: s => if isBlank c then go false n s else go true (if inside then n else n + 1) s

def countWords (s : List Char) : Nat := countWords.go false 0 s

theorem length_dropBlanks_le (s : List Char) : (dropBlanks s).length ≤ s.length := by
  induction s with
  | nil => simp [dropBlanks]
  | cons c s ih =>
    by_cases h : isBlank c
    · simp only [dropBlanks, List.dropWhile_cons, h, if_true, List.length_cons] at ih ⊢; omega
    · simp [dropBlanks, h]

end ToolPipeline.Text
