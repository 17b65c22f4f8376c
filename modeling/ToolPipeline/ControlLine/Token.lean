import ToolPipeline.Text.Blank
import ToolPipeline.Text.Cut
import ToolPipeline.Text.Utf8

set_option autoImplicit false

/-!
The tokens of a control line and how one of them is read off the front of a text.
-/

namespace ToolPipeline.ControlLine

inductive Token where
  /-- A bare word, or the text between quotes. -/
  | literal (text : String) (quoted : Bool)
  | redirect
  | pipe
  | dash
  | equals
  | endOfInput
  deriving DecidableEq, Repr

namespace Token

def display : Token → String
  | literal text true => "quoted literal \"" ++ text ++ "\""
  | literal text false => "literal '" ++ text ++ "'"
  | redirect => "'>'"
  | pipe => "'|'"
  | dash => "'-'"
  | equals => "'='"
  | endOfInput => "end of input"

def isLiteral : Token → Bool
  | literal .. => true
  | _ => false

end Token

def operator? (c : Char) : Option Token :=
  if c == '>' then some .redirect
  else if c == '|' then some .pipe
  else if c == '-' then some .dash
  else if c == '=' then some .equals
  else none

def isQuote (c : Char) : Bool := c == '"' || c == '\''

/-- The characters that a bare word goes on with. A quote inside a word is part of it. -/
def isWordChar (c : Char) : Bool := !Text.isBlank c && (operator? c).isNone

inductive Scanned where
  | token (t : Token) (rest : List Char)
  | unclosed (quote : Char)
  | nothing
  deriving DecidableEq, Repr

/-- Reads the token at the front of a text that does not start with a blank. -/
def scan : List Char → Scanned
  | [] => .nothing
  | c :: s =>
    match operator? c with
    | some t => .token t s
    | none =>
      if isQuote c then
        match Text.cut [c] s with
        | some (body, rest) => .token (.literal (String.ofList body) true) rest
        | none => .unclosed c
      else .token (.literal (String.ofList (c :: s.takeWhile isWordChar)) false) (s.dropWhile isWordChar)

theorem length_of_scan_eq_token {s r : List Char} {t : Token} (h : scan s = .token t r) :
    r.length < s.length := by
  cases s with
  | nil => simp [scan] at h
  | cons c s =>
    simp only [scan] at h
    split at h
    · injection h with _ hr; subst hr; simp
    · split at h
      · split at h
        · rename_i hc
          injection h with _ hr
          subst hr
          have := Text.length_of_cut_eq_some hc
          simp only [List.length_cons] at this ⊢; omega
        · cases h
      · injection h with _ hr
        subst hr
        have := (List.dropWhile_sublist isWordChar (l := s)).length_le
        simp only [List.length_cons]; omega

end ToolPipeline.ControlLine
