import ToolPipeline.InProcess.Program
import ToolPipeline.OrderedMap
import ToolPipeline.Text.Blank
import ToolPipeline.Text.Case
import ToolPipeline.Text.Quoted

set_option autoImplicit false

/-!
The entry points that come with the library. They work on the text of their standard input or, when
there are arguments, on the arguments joined by spaces.
-/

namespace ToolPipeline.Builtins

def readText : Program String := do
  match Text.decode? (← Program.readAll) with
  | some s => pure s
  | none => .fail "I/O error: stream did not contain valid UTF-8"

def inputText (args : List String) : Program String :=
  if args.isEmpty then readText else pure (" ".intercalate args)

def emitText (s : String) : Program Unit := do
  Program.emit (Text.encode s)
  Program.flushed

def catFiles : List String → Program Unit
  | [] => pure ()
  | path :: rest => do
    match ← Program.contentOf (← Program.located path) with
    | .error e => .fail (path ++ ": " ++ e.message)
    | .ok b =>
      Program.emit b
      catFiles rest

def cat : EntryPoint := fun args => if args.isEmpty then do emitText (← readText) else catFiles args

def upper : EntryPoint := fun args => do
  emitText (String.ofList (Text.upper (← inputText args).toList))

def lower : EntryPoint := fun args => do
  emitText (String.ofList (Text.lower (← inputText args).toList))

/-- The characters in reverse order; a line feed at the end stays there. -/
def reverseLine (s : List Char) : List Char :=
  match s.reverse with
  | '\n' :: body => body ++ ['\n']
  | body => body

def reverse : EntryPoint := fun args => do
  emitText (String.ofList (reverseLine (← inputText args).toList))

/-- Counts characters, words and lines, of which there is one at least. -/
def countText (s : List Char) : String :=
  let field (name : String) (n : Nat) := "\"" ++ name ++ "\":" ++ toString n
  "\x7b" ++ ",".intercalate [field "char_count" s.length, field "word_count" (Text.countWords s),
    field "line_count" (max (Text.lines s).length 1)] ++ "\x7d"

def wordCount : EntryPoint := fun args => do emitText (countText (← inputText args).toList)

def digitsValue (s : List Char) : Nat := s.foldl (fun n c => n * 10 + (c.toNat - 48)) 0

def status? (s : String) : Option Int :=
  let (negative, digits) := match s.toList with
    | '-' :: d => (true, d)
    | '+' :: d => (false, d)
    | d => (false, d)
  if digits.isEmpty || !digits.all Char.isDigit then none
  else
    let n : Int := if negative then -digitsValue digits else digitsValue digits
    if -2147483648 ≤ n && n ≤ 2147483647 then some n else none

def exit : EntryPoint := fun args => do
  let status ← match args with
    | [] => pure 0
    | arg :: _ =>
      match status? arg with
      | some n => pure n
      | none => .fail s!"invalid exit status '{arg}'"
  emitText (← readText)
  .exit status

end ToolPipeline.Builtins

namespace ToolPipeline

abbrev Registry := OrderedMap String EntryPoint

namespace Registry

def builtins : Registry :=
  ⟨[("builtin.Cat", Builtins.cat), ("builtin.Exit", Builtins.exit), ("builtin.Lower", Builtins.lower),
    ("builtin.Reverse", Builtins.reverse), ("builtin.Upper", Builtins.upper),
    ("builtin.WordCount", Builtins.wordCount)]⟩

def names (r : Registry) : List String := r.keys.mergeSort (· ≤ ·)

def describe (r : Registry) : String :=
  "EntryPointRegistry \x7b entry_points: [" ++ ", ".intercalate (r.names.map Text.quoted) ++ "] \x7d"

end Registry

end ToolPipeline
