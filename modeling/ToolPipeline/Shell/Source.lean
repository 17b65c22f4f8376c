import ToolPipeline.OrderedMap
import ToolPipeline.Shell.Item
import ToolPipeline.Shell.Token

set_option autoImplicit false

/-!
The text of a script while it is read: its characters with the ends of aliases among them, and what the reader
remembers between tokens.
-/

namespace ToolPipeline.Shell

inductive Symbol where
  | char (c : Char)
  /-- Where the text of an alias ends. Behind a blank the next word may be an alias too. -/
  | endOfAlias (name : Chars) (blank : Bool)
  deriving DecidableEq, Repr

/-- What the next word is looked up in, and whether line ends are skipped before it. -/
structure Checks where
  newlines : Bool
  keywords : Bool
  aliases : Bool
  isMark : Bool
  deriving DecidableEq, Repr

namespace Checks

def none : Checks := ⟨false, false, false, false⟩

def command : Checks := ⟨false, true, true, false⟩

def laterCommand : Checks := ⟨true, true, true, false⟩

end Checks

structure PendingDocument where
  id : Nat
  mark : Chars
  dropsTabs : Bool
  expands : Bool
  deriving DecidableEq, Repr

inductive RedirectionOperator where
  | file (mode : OpenMode)
  | duplicate
  | document (dropsTabs : Bool)
  deriving DecidableEq, Repr

structure Source where
  input : List Symbol
  line : Nat
  last : Token
  again : Bool
  checks : Checks
  items : List Item
  quoted : Bool
  redirection : Nat × RedirectionOperator
  pending : List PendingDocument
  documents : List (Nat × Word)
  nextId : Nat
  aliases : OrderedMap Chars Chars

structure LocatedProblem where
  line : Nat
  problem : ScriptProblem
  deriving DecidableEq, Repr

abbrev Reading := StateT Source (Except LocatedProblem)

namespace Source

def ofText (text : Chars) (aliases : OrderedMap Chars Chars) (nextId : Nat) : Source where
  input := text.map .char
  line := 1
  last := .newline
  again := false
  checks := .none
  items := []
  quoted := false
  redirection := (0, .duplicate)
  pending := []
  documents := []
  nextId
  aliases

def dropBlankEnds : List Symbol → Bool × List Symbol
  | .endOfAlias _ true :: rest => (true, (dropBlankEnds rest).2)
  | input => (false, input)

def dropJoints (count : Nat) : List Symbol → Nat × List Symbol
  | .char '\\' :: .char '\n' :: rest => dropJoints (count + 1) rest
  | input => (count, input)

def isInAlias (s : Source) (name : Chars) : Bool :=
  s.input.any fun
    | .endOfAlias n _ => n == name
    | .char _ => false

def pushAlias (s : Source) (name text : Chars) : Source :=
  let blank := text.getLast? == some ' ' || text.getLast? == some '\t'
  if text.isEmpty then s else { s with input := text.map .char ++ .endOfAlias name blank :: s.input }

def lineText (acc : Chars) : List Symbol → Chars × List Symbol
  | .char '\n' :: rest => (acc.reverse, .char '\n' :: rest)
  | .char c :: rest => lineText (c :: acc) rest
  | .endOfAlias .. :: rest => lineText acc rest
  | [] => (acc.reverse, [])

end Source

namespace Reading

def fail {α : Type} (p : ScriptProblem) : Reading α := do throw ⟨(← get).line, p⟩

def next : Reading (Option Symbol) := do
  let s ← get
  let (blank, input) := Source.dropBlankEnds s.input
  let checks := if blank then { s.checks with aliases := true } else s.checks
  match input with
  | [] =>
    set { s with input, checks }
    pure none
  | x :: rest =>
    set { s with input := rest, checks }
    pure (some x)

def back (x : Option Symbol) : Reading Unit :=
  match x with
  | some x => modify fun s => { s with input := x :: s.input }
  | none => pure ()

def countLines (n : Nat) : Reading Unit := modify fun s => { s with line := s.line + n }

def nextJoined : Reading (Option Symbol) := do
  let s ← get
  let (n, input) := Source.dropJoints 0 s.input
  set { s with input, line := s.line + n }
  next

def accept (c : Char) : Reading Bool := do
  let x ← nextJoined
  if x == some (.char c) then pure true
  else
    back x
    pure false

/-- Takes characters as long as they satisfy `p`, behind the ones read before, which come in reverse order. -/
def takeWhile (p : Char → Bool) : Nat → Chars → Reading Chars
  | 0, acc => pure acc.reverse
  | fuel + 1, acc => do
    match ← nextJoined with
    | some (.char c) =>
      if p c then takeWhile p fuel (c :: acc)
      else
        back (some (.char c))
        pure acc.reverse
    | x =>
      back x
      pure acc.reverse

def skipLine : Reading Unit := modify fun s => { s with input := (Source.lineText [] s.input).2 }

def expecting (checks : Checks) : Reading Unit := modify fun s => { s with checks }

def readAgain : Reading Unit := modify fun s => { s with again := true }

def refuse {α : Type} (expected : Option Token) : Reading α := do fail (.unexpected (← get).last expected)

def lastWord : Reading Word := do return Item.word false (← get).items

end Reading

end ToolPipeline.Shell
