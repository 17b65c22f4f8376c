import ToolPipeline.Shell.Builtins.Basic
import ToolPipeline.Shell.Programs.Table
import ToolPipeline.Shell.Token

set_option autoImplicit false

/-!
What names of commands stand for: words of the language, aliases, functions, commands of the shell and programs.
-/

namespace ToolPipeline.Shell

inductive Callee where
  | function (body : Command)
  | builtin
  | program (name path : Chars)
  | forbidden
  | missing
  /-- A name that is no file but is found all the same. -/
  | blocked

namespace Builtin

def ordinary : List String :=
  ["[", "alias", "bg", "cd", "chdir", "command", "echo", "false", "fg", "getopts", "hash", "jobs", "kill", "printf",
    "pwd", "read", "test", "true", "type", "ulimit", "umask", "unalias", "wait"]

def isSpecial (name : Chars) : Bool := specialCommands.any fun n => n.toList == name

def isBuiltin (name : Chars) : Bool := isSpecial name || ordinary.any fun n => n.toList == name

def assigns (name : Chars) : Bool :=
  ["alias", "export", "local", "readonly"].any fun n => n.toList == name

def defaultPath : Chars := "/usr/local/sbin:/usr/local/bin:/usr/sbin:/usr/bin:/sbin:/bin".toList

def inDirectory (directory name : Chars) : Chars := if directory.isEmpty then name else directory ++ ['/'] ++ name

/-- Whether a name in a directory leads to something. The directories of programs are always there. -/
def leadsSomewhere (files : FileTree) (directory name : Chars) : Bool :=
  let isDirectory := name.isEmpty || name == ['.', '.']
  (isDirectory && (Chars.splitOn ':' defaultPath).contains directory) ||
    files.holds (inDirectory directory name).toText

def searchPath (files : FileTree) (directories : List Chars) (name : Chars) : Callee :=
  match directories.findSome? fun d =>
    let p := inDirectory d name
    (Program.ofPath? p).map fun n => Callee.program n p with
  | some c => c
  | none => if directories.any fun d => leadsSomewhere files d name then .blocked else .missing

def callee (functions : Bool) (path : Option Chars) (name : Chars) : Running Callee := do
  let m ← get
  if name.contains '/' then
    pure (match Program.ofPath? name with
      | some n => .program n name
      | none => if m.files.holds name.toText then .forbidden else .missing)
  else if isSpecial name then pure .builtin
  else
    match if functions then m.functions.get? name else none with
    | some body => pure (.function body)
    | none =>
      if isBuiltin name then pure .builtin
      else
        let standard := (← Running.value? "PATH".toList).getD []
        let path := path.getD standard
        pure (searchPath m.files (Chars.splitOn ':' path) name)

def calleeProblem? : Callee → Option String
  | .missing => some "not found"
  | .blocked | .forbidden => some "Permission denied"
  | _ => none

def describe (sentence : Bool) (path : Option Chars) (name : Chars) : Running Nat := do
  let tell (long : String) (short : Chars) : Running Nat := do
    sayLines [if sentence then name ++ ' ' :: Chars.ofString long else short]
    pure 0
  let m ← get
  let isStandard := path.isNone
  if (Token.ofWord? name).isSome then tell "is a shell keyword" name
  else
    match m.aliases.get? name with
    | some text =>
      if sentence then
        sayLines [name ++ " is an alias for ".toList ++ text]
      else sayLines ["alias ".toList ++ name ++ '=' :: quoted text]
      pure 0
    | none =>
      match ← callee true path name with
      | .function _ => tell "is a shell function" name
      | .builtin => tell (if isSpecial name then "is a special shell builtin" else "is a shell builtin") name
      | .program _ path =>
        let front := if m.found.contains name then "is a tracked alias for " else "is "
        if isStandard && !name.contains '/' then Running.note name
        tell (front ++ path.toText) path
      | .forbidden =>
        if m.files.holdsFile name.toText then tell ("is " ++ name.toText) name else missing name
      | .missing | .blocked => missing name
where
  missing (name : Chars) : Running Nat := do
    if sentence then sayLines [name ++ ": not found".toList]
    pure 127

def type : Builtin := fun arguments => do
  let statuses ← arguments.mapM (describe true none)
  pure (statuses.foldl max 0)

def commandInfo : Builtin := fun arguments => do
  let (given, operands) ← parse "pvV" arguments
  let wanted := given.filter fun l => l.letter != 'p'
  match wanted, operands with
  | [], _ | _, [] => pure 0
  | _, name :: _ =>
    let path := if given.any fun l => l.letter == 'p' then some defaultPath else none
    describe (wanted.any fun l => l.letter == 'V') path name

def programPlaces : Nat := 31

def hash : Builtin := fun arguments => do
  let (given, operands) ← parse "r" arguments
  if !given.isEmpty then
    modify fun m => { m with found := [] }
    pure 0
  else if operands.isEmpty then
    let names := inTableOrder programPlaces id (← get).found
    sayLines (names.map fun n => "/usr/bin/".toList ++ n)
    pure 0
  else
    let mut status := 0
    for name in operands do
      let c ← callee true none name
      match c, calleeProblem? c with
      | .program _ _, _ => Running.note name
      | _, some problem =>
        Running.warn (name ++ ": ".toList ++ problem.toList)
        status := 1
      | _, none => pure ()
    pure status

def aliasPlaces : Nat := 39

def aliasLine (a : Chars × Chars) : Chars := a.1 ++ '=' :: quoted a.2

def defineAlias : Builtin := fun arguments => do
  if arguments.isEmpty then
    sayLines ((inTableOrder aliasPlaces (·.1) (← get).aliases.toList).map aliasLine)
    pure 0
  else
    let mut status := 0
    for a in arguments do
      let front := a.take 1 ++ (a.drop 1).takeWhile (· != '=')
      if front.length < a.length then
        modify fun m => { m with aliases := m.aliases.insert front (a.drop (front.length + 1)) }
      else
        match (← get).aliases.get? a with
        | some text => sayLines [aliasLine (a, text)]
        | none =>
          Running.writeChars 2 ("alias: ".toList ++ a ++ " not found\n".toList)
          status := 1
    pure status

def unalias : Builtin := fun arguments => do
  let (given, operands) ← parse "a" arguments
  if !given.isEmpty then
    modify fun m => { m with aliases := ∅ }
    pure 0
  else
    let mut status := 0
    for a in operands do
      if (← get).aliases.contains a then modify fun m => { m with aliases := m.aliases.erase a }
      else
        Running.writeChars 2 ("unalias: ".toList ++ a ++ " not found\n".toList)
        status := 1
    pure status

end Builtin

end ToolPipeline.Shell
