import ToolPipeline.Shell.Builtins.Condition
import ToolPipeline.Shell.Format
import ToolPipeline.Shell.Programs.Cat
import ToolPipeline.Shell.Programs.Cp
import ToolPipeline.Shell.Programs.Head
import ToolPipeline.Shell.Programs.Sorting
import ToolPipeline.Shell.Programs.Tr
import ToolPipeline.Shell.Programs.Wc

set_option autoImplicit false

/-!
The programs that can be called by their names, and where they are found.
-/

namespace ToolPipeline.Shell.Program

def constant (status : Nat) : Program := fun _ _ => pure status

def isTimeSpan (s : Chars) : Bool :=
  let body := match s.getLast? with
    | some c => if "smhd".toList.contains c then s.dropLast else s
    | none => s
  let r := Binary64.read body
  r.found && r.rest.isEmpty && !r.value.isNegative

/-- Waits, which takes no time here. -/
def sleep : Program := fun name arguments => do
  let given := Given.readAll commonOptions arguments
  let operands := Given.operands given
  let bad := operands.filter fun a => !isTimeSpan a
  match instead? ⟨"sleep", ["NUMBER[SUFFIX]...", "OPTION"]⟩ 1 name given with
  | some other => other
  | none =>
    if operands.isEmpty then misused 1 name "missing operand".toList
    else if bad.isEmpty then pure 0
    else
      for a in bad do complain name ("invalid time interval ".toList ++ Quoting.value a)
      hint name
      pure 1

def test (brackets : Bool) : Program := fun name arguments => do
  if brackets && arguments.getLast? != some [']'] then
    complain name ("missing ".toList ++ Quoting.value [']'])
    pure 2
  else tryCatch (Builtin.test brackets arguments) fun _ => pure 2

def echo : Program := fun name arguments => do
  let isOption (a : Chars) : Bool :=
    match a with
    | '-' :: c :: letters => (c :: letters).all fun c => "neE".toList.contains c
    | _ => false
  let given := (arguments.takeWhile isOption).flatten
  let line := Chars.join [' '] (arguments.dropWhile isOption)
  let escapes := (given.filter fun c => c == 'e' || c == 'E').getLast? == some 'e'
  let (line, stops) := if escapes then Format.unescape [] (line.length + 1) line else (line, false)
  finish name (Chars.toBytes (if given.contains 'n' || stops then line else line ++ ['\n'])) 0

def printf : Program := fun name arguments => do
  match arguments with
  | [] => misused 1 name "missing operand".toList
  | format :: rest =>
    let p := Format.run format rest
    for m in p.problems do complain name m
    let status ← finish name (Chars.toBytes p.text) (if p.failed then 1 else 0)
    if !rest.isEmpty && p.arguments.length = rest.length then
      complain name ("warning: ignoring excess arguments, starting with ".toList ++ Quoting.value (rest.headD []))
    pure status

def table : List (String × Program) :=
  [("[", test true), ("cat", cat), ("cp", cp), ("echo", echo), ("false", constant 1), ("head", head),
    ("printf", printf), ("sleep", sleep), ("sort", sort), ("test", test false), ("tr", tr), ("true", constant 0),
    ("wc", wc)]

def ofName? (name : Chars) : Option Program := (table.find? fun p => p.1.toList == name).map (·.2)

def isShell (name : Chars) : Bool := name == "sh".toList || name == "dash".toList || name == "bash".toList

def isInstalled (name : Chars) : Bool := (ofName? name).isSome || isShell name

def homes : List Chars := ["/usr/bin".toList, "/bin".toList]

def ofPath? (path : Chars) : Option Chars :=
  homes.findSome? fun home =>
    let front := home ++ ['/']
    if front.isPrefixOf path && isInstalled (path.drop front.length) then some (path.drop front.length) else none

end ToolPipeline.Shell.Program
