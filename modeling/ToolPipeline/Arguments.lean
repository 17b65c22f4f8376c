import ToolPipeline.Text.Blank
import ToolPipeline.Text.Cut

set_option autoImplicit false

/-!
The arguments in a command line. Blanks separate arguments, and text between two equal quotes is an
argument of its own, even where it touches a word. A quote that is closed nowhere is dropped.
-/

namespace ToolPipeline.Arguments

def isQuote (c : Char) : Bool := c == '"' || c == '\''

def isBare (c : Char) : Bool := !Text.isBlank c && !isQuote c

def splitChars : List Char → List (List Char)
  | [] => []
  | c :: s =>
    if Text.isBlank c then splitChars s
    else if isQuote c then
      match h : Text.cut [c] s with
      | some (body, rest) =>
        have : rest.length < (c :: s).length :=
          Nat.lt_succ_of_lt (Text.length_lt_of_cut_eq_some (List.cons_ne_nil _ _) h)
        body :: splitChars rest
      | none => splitChars s
    else
      have : (s.dropWhile isBare).length < (c :: s).length :=
        Nat.lt_succ_of_le (List.dropWhile_sublist isBare).length_le
      (c :: s.takeWhile isBare) :: splitChars (s.dropWhile isBare)
  termination_by s => s.length
  decreasing_by all_goals simp only [List.length_cons]; omega

def split (line : String) : List String := (splitChars line.toList).map String.ofList

end ToolPipeline.Arguments
