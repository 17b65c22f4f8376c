import ToolPipeline.Executor
import ToolPipeline.Shell.Run

set_option autoImplicit false

/-!
Processes: commands run by a shell in a working directory, with pipes for their standard streams. Any program can
stand in for the shell; it is given the option of a shell and the command.
-/

namespace ToolPipeline

namespace Shell

def argumentLimit : Nat := 131072

def firstProcess : Nat := 100

def environment : List (String × String) :=
  [("HOME", "/root"), ("PATH", String.ofList Builtin.defaultPath)]

/-- What every process finds beside its own files. -/
def surroundings : List (Location × Entry) :=
  let directories := [["bin"], ["dev", "fd"], ["etc"], ["home"], ["lib"], ["opt"], ["proc"], ["root"], ["run"], ["sbin"],
    ["sys"], ["usr"], ["usr", "bin"], ["usr", "lib"], ["usr", "local"], ["usr", "local", "bin"],
    ["usr", "local", "sbin"], ["usr", "sbin"], ["usr", "share"], ["var"]]
  let streams := [(["dev", "stdin"], 0), (["dev", "stdout"], 1), (["dev", "stderr"], 2)] ++
    (List.range 10).map fun n => (["dev", "fd", toString n], n)
  let devices := [(["dev", "full"], Device.full), (["dev", "random"], .zero), (["dev", "urandom"], .zero)] ++
    streams.map fun s => (s.1, .stream s.2)
  let programs := ("sh" :: Program.table.map (·.1)).flatMap fun name => [["bin", name], ["usr", "bin", name]]
  (directories.map fun l => (l, .directory)) ++ (devices.map fun d => (d.1, .device d.2)) ++
    ([["etc", "hostname"], ["etc", "passwd"]] ++ programs).map fun l => (l, .file [])

def surround (files : FileTree) : FileTree :=
  (surroundings.filter fun e => !files.entries.contains e.1).foldl (fun t e => t.put e.1 e.2) files

def withdraw (before after : FileTree) : FileTree :=
  let added := surroundings.filter fun e => !before.entries.contains e.1
  { after with entries := added.foldl (fun m e => m.erase e.1) after.entries }

def Machine.start (files : FileTree) (name : Chars) (stdin : Bytes) : Machine where
  process := firstProcess
  files
  channels := #[.source stdin, .sink [], .sink []]
  descriptors := .ofList [(0, 0), (1, 1), (2, 2)]
  vars := .ofList (environment.map fun v => (v.1.toList, ⟨some v.2.toList, true, false⟩))
  locals := []
  name
  arguments := []
  optionPlace := ⟨1, none⟩
  functions := ∅
  aliases := ∅
  found := []
  documents := ∅
  nextDocument := 0
  options := []
  traps := ∅
  signals := []
  trapStatus := none
  status := 0
  wordStatus := 0
  skip := .none
  loops := 0
  depth := 0
  line := 0
  speaker := none
  lost := false
  jobs := []
  lastJob := none
  umask := 18
  isChild := false
  roundsLeft := none

def Machine.written (m : Machine) (i : Nat) : Bytes :=
  match m.channels[i]? with
  | some (.sink pieces) => joinPieces pieces
  | _ => []

inductive Interpreter where
  | shell
  | program (p : Program)

/-- Programs that know no option of a shell, with the statuses by which they tell that. -/
def strangers : List (String × Nat) :=
  [("basename", 1), ("date", 1), ("dd", 1), ("dirname", 1), ("env", 125), ("id", 1), ("ln", 1), ("mkdir", 1),
    ("mv", 1), ("nice", 125), ("nl", 1), ("nohup", 125), ("paste", 1), ("printenv", 2), ("pwd", 1), ("rm", 1),
    ("rmdir", 1), ("seq", 1), ("tac", 1), ("tee", 1), ("timeout", 125), ("uname", 1), ("whoami", 1), ("yes", 1)]

def refuse (status : Nat) : Program := fun name _ => Program.misused status name "invalid option -- 'c'".toList

def interpreter? (name : Chars) : Option Interpreter :=
  if Program.isShell name then some .shell
  else
    match Program.ofName? name with
    | some p => some (.program p)
    | none => (strangers.find? fun s => s.1.toList == name).map fun s => .program (refuse s.2)

def findInterpreter (files : FileTree) (shell : String) : Except StartError Interpreter :=
  let name := Chars.ofString shell
  let home := Program.homes.find? fun h => (h ++ ['/']).isPrefixOf name
  let short := match home with
    | some h => name.drop (h.length + 1)
    | none => name
  match if short.contains '/' then none else interpreter? short with
  | some i => .ok i
  | none =>
    if !name.contains '/' then .error (.file .missing)
    else
      match files.locate shell with
      | .error e => .error (.file e)
      | .ok l => .error (if (files.entry? l).isSome then .notExecutable else .file .missing)

def interpret (i : Interpreter) (name command : Chars) (files : FileTree) (stdin : Bytes) :
    StageOutput × FileTree :=
  let arguments := [['-', 'c'], command]
  let work : Running Ending := match i with
    | .program p => .exited <$> p name arguments
    | .shell => Running.toEnd Running.limit (Running.shell Running.limit arguments)
  let (r, m) := work.run (.start files name stdin)
  let status : Nat := match r with
    | .ok e => e.status
    | .error (.exit n) | .error (.replaced n) => n
    | .error (.killed signal) => signalBase + signal
    | .error .error => m.status
  (⟨status, m.written 1, m.written 2⟩, m.files)

def runCommand (shell command workingDir : String) (stdin : Bytes) (files : FileTree) :
    Except StartError (StageOutput × FileTree) := do
  if [shell, command, workingDir].any fun s => s.contains '\x00' then throw .nulInArgument
  let place ← (files.locate workingDir).mapError .file
  if !files.isDirectoryAt place then throw (.file .notADirectory)
  if argumentLimit ≤ command.utf8ByteSize then throw .argumentTooLong
  let there := surround { files with current := place }
  let i ← findInterpreter there shell
  let (o, after) := interpret i (.ofString shell) (.ofString command) there stdin
  return (o, withdraw files { after with current := files.current })

end Shell

/-- The executor that has a shell run its commands. -/
def processExecutor {σ : Type} (shell : String) : Executor σ where
  kind := "process"
  run commandLine workingDir stdin := do
    let s ← get
    match Shell.runCommand shell commandLine workingDir stdin s.files with
    | .error e => throw (.error (.start e))
    | .ok (o, files) =>
      set { s with files }
      pure o

end ToolPipeline
