import ToolPipeline.Shell.Machine
import ToolPipeline.Shell.Options

set_option autoImplicit false

/-!
What the programs have in common that scripts call: messages under their names, their inputs and their output.
-/

namespace ToolPipeline.Shell

abbrev Program := (name : Chars) → (arguments : List Chars) → Running Nat

namespace Program

def complain (name problem : Chars) : Running Unit := Running.writeChars 2 (name ++ ": ".toList ++ problem ++ ['\n'])

def complainText (name : Chars) (problem : String) : Running Unit := complain name (Chars.ofString problem)

def hint (name : Chars) : Running Unit :=
  Running.writeChars 2 ("Try '".toList ++ name ++ " --help' for more information.\n".toList)

def misused (status : Nat) (name problem : Chars) : Running Nat := do
  complain name problem
  hint name
  pure status

structure BadWord where
  option : Chars
  word : Chars
  isAmbiguous : Bool
  allowed : List (List String)
  deriving DecidableEq, Repr

def badWord (status : Nat) (name : Chars) (w : BadWord) : Running Nat := do
  complain name ((if w.isAmbiguous then "ambiguous" else "invalid").toList ++ " argument ".toList ++
    Quoting.value w.word ++ " for ".toList ++ Quoting.value w.option)
  Running.writeChars 2 ("Valid arguments are:\n".toList ++
    w.allowed.flatMap fun group => "  - ".toList ++
      Chars.join ", ".toList (group.map fun w => Quoting.value w.toList) ++ ['\n'])
  hint name
  pure status

/-- The meaning of a word, which may be shortened as long as its meaning stays distinct. -/
def wordMeaning {α : Type} [DecidableEq α] (words : List (String × α)) (option word : Chars) : Except BadWord α :=
  let bad (isAmbiguous : Bool) : Except BadWord α :=
    .error ⟨option, word, isAmbiguous, (words.splitBy fun p q => p.2 = q.2).map fun g => g.map (·.1)⟩
  match words.find? fun p => p.1.toList == word with
  | some p => .ok p.2
  | none =>
    match words.filter fun p => word.isPrefixOf p.1.toList with
    | [] => bad false
    | p :: more => if more.all fun q => q.2 = p.2 then .ok p.2 else bad true

def commonOptions : List OptionSpec := [.wordOnly "help" .absent, .wordOnly "version" .absent]

structure Title where
  name : String
  usages : List String
  deriving DecidableEq, Repr

def Title.help (t : Title) (name : Chars) : Chars :=
  (t.usages.zipIdx.flatMap fun p =>
    (if p.2 = 0 then "Usage: " else "  or:  ").toList ++ name ++ [' '] ++ p.1.toList ++ ['\n'])

def Title.version (t : Title) : Chars := t.name.toList ++ " (GNU coreutils) 9.4\n".toList

/-- What a command line asks for instead of the work of a program: help, its version, or that a problem is told. -/
def instead? (t : Title) (failure : Nat) (name : Chars) (l : List Given) : Option (Running Nat) :=
  l.findSome? fun g =>
    let tell (s : Chars) : Running Nat := do
      Running.writeChars 1 s
      pure 0
    match g with
    | .problem m => some (misused failure name m)
    | .option "help" _ => some (tell (t.help name))
    | .option "version" _ => some (tell t.version)
    | _ => none

inductive Input where
  | content (b : Bytes)
  | missing (reason : String)
  | unreadable (reason : String)
  deriving DecidableEq, Repr

def badDescriptor : String := "Bad file descriptor"

def streamInput (number : Nat) : Running Input := do
  match ← Running.read number none with
  | .bytes b => pure (.content b)
  | .isDirectory => pure (.unreadable FileError.isADirectory.reason)
  | .closed => pure (.unreadable badDescriptor)

def standardInput : Running Input := streamInput 0

def fileInput (path : Chars) : Running Input := do
  let files := (← get).files
  match files.lookup path.toText with
  | .error e => pure (.missing e.reason)
  | .ok (.file b) => pure (.content b)
  | .ok .directory => pure (.unreadable FileError.isADirectory.reason)
  | .ok (.device .null) => pure (.content [])
  | .ok (.device (.stream n)) =>
    match ← Running.channel? n with
    | none => pure (.missing FileError.missing.reason)
    | some (_, .file l _ _) => pure (.content ((files.content? l).getD []))
    | some _ => streamInput n
  | .ok (.device _) => pure (.content (List.replicate Running.endlessLimit 0))

def input (operand : Chars) : Running Input := if operand == ['-'] then standardInput else fileInput operand

def isOpen (descriptor : Nat) : Running Bool := do return (← Running.channel? descriptor).isSome

def writeProblem : Running String := do
  match ← Running.channel? 1 with
  | some (_, .device .full) => pure "No space left on device"
  | _ => pure badDescriptor

def finish (name : Chars) (output : Bytes) (status : Nat) : Running Nat := do
  if output.isEmpty then pure status
  else if ← Running.write 1 output then pure status
  else
    complainText name ("write error: " ++ (← writeProblem))
    pure 1

def orStandardInput (operands : List Chars) : List Chars := if operands.isEmpty then [['-']] else operands

def lines (separator : UInt8) (s : Bytes) : List Bytes :=
  let acc : List Bytes × Bytes := s.foldl (fun acc b =>
    if b == separator then ((b :: acc.2).reverse :: acc.1, []) else (acc.1, b :: acc.2)) ([], [])
  (if acc.2.isEmpty then acc.1 else acc.2.reverse :: acc.1).reverse

end Program

inductive UnitCount where
  | count (n : Nat)
  | tooLarge
  | malformed
  deriving DecidableEq, Repr

namespace UnitCount

def unitPower? (c : Char) : Option Nat :=
  match c with
  | 'k' | 'K' => some 1
  | 'm' | 'M' => some 2
  | 'G' => some 3
  | 'T' => some 4
  | 'P' => some 5
  | 'E' => some 6
  | 'Z' => some 7
  | 'Y' => some 8
  | 'R' => some 9
  | 'Q' => some 10
  | _ => none

/-- The factor that a unit stands for: blocks, or powers of 1024, or with a B behind the letter powers of 1000. -/
def factor? (unit : Chars) : Option Nat :=
  match unit with
  | [] => some 1
  | ['b'] => some 512
  | [c] => (unitPower? c).map fun p => Nat.pow 1024 p
  | [c, 'B'] | [c, 'D'] => (unitPower? c).map fun p => Nat.pow 1000 p
  | [c, 'i', 'B'] => (unitPower? c).map fun p => Nat.pow 1024 p
  | _ => none

def read (s : Chars) : UnitCount :=
  let t := s.dropWhile Chars.isSpace
  if t.head? == some '-' then malformed
  else
    let t := if t.head? == some '+' then t.drop 1 else t
    let (n, unit) := Chars.digits 10 0 t
    let found := unit.length < t.length
    if !found && (t.length < s.length || unit.isEmpty) then malformed
    else
      match factor? unit with
      | none => malformed
      | some f =>
        let n := if found then n else 1
        if Nat.pow 2 64 ≤ n * f then tooLarge else count (n * f)

end UnitCount

end ToolPipeline.Shell
