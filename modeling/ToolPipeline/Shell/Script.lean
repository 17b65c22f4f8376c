import ToolPipeline.Shell.Chars

set_option autoImplicit false

/-!
Shell scripts as trees.
-/

namespace ToolPipeline.Shell

inductive Alternative where
  | default
  | replacement
  | complaint
  | assignment
  deriving DecidableEq, Repr

inductive ParameterUse where
  | value
  | length
  /-- With `orEmpty` an empty value counts as none. -/
  | alternative (kind : Alternative) (orEmpty : Bool)
  | trimmed (front longest : Bool)
  | faulty
  deriving DecidableEq, Repr

inductive OpenMode where
  | read
  | write
  | overwrite
  | append
  | update
  deriving DecidableEq, Repr

mutual

/-- A part of a word. What is quoted is neither split into fields nor taken for a pattern. -/
inductive Part where
  | text (s : Chars) (quoted : Bool)
  /-- A quote, which makes a field even where it encloses nothing. -/
  | quoteMark
  | parameter (name : Chars) (use : ParameterUse) (word : List Part) (quoted : Bool)
  | arithmetic (expression : List Part) (quoted : Bool)
  | output (script : Command) (quoted : Bool)
  deriving Repr

inductive Redirection where
  | file (descriptor : Nat) (mode : OpenMode) (target : List Part)
  | duplicate (descriptor : Nat) (target : List Part)
  | document (descriptor : Nat) (id : Nat)
  deriving Repr

inductive Command where
  | nothing
  | simple (line : Nat) (assignments words : List (List Part)) (redirections : List Redirection)
  | pipeline (stages : List Command)
  | negation (c : Command)
  | both (first second : Command)
  | either (first second : Command)
  | sequence (first second : Command)
  | background (c : Command)
  | subshell (line : Nat) (body : Command) (redirections : List Redirection)
  | redirected (line : Nat) (body : Command) (redirections : List Redirection)
  | branch (condition body otherwise : Command)
  | loop (negated : Bool) (condition body : Command)
  | choice (line : Nat) (word : List Part) (branches : List (List (List Part) × Command))
  | each (line : Nat) (name : Chars) (items : List (List Part)) (body : Command)
  | define (line : Nat) (name : Chars) (body : Command)
  deriving Repr

end

abbrev Word := List Part

instance : Inhabited Command := ⟨.nothing⟩

def Command.isNothing : Command → Bool
  | nothing => true
  | _ => false

/-- The characters of a word that are not quoted and do not come from an expansion. -/
def Word.leadingText (w : Word) : Chars :=
  match w with
  | .text s false :: _ => s
  | _ => []

def Word.isAssignment (w : Word) : Bool := (Chars.assignment? (Word.leadingText w)).isSome

end ToolPipeline.Shell
