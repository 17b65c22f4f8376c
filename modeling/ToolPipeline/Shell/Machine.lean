import ToolPipeline.FileTree.Operations
import ToolPipeline.Shell.Script

set_option autoImplicit false

/-!
What a shell works on: files, the ends of pipes, descriptors that stand for them, its variables and settings.
-/

namespace ToolPipeline.Shell

inductive Channel where
  | source (rest : Bytes)
  /-- The writing end of a pipe, with the pieces written to it, the last one first. -/
  | sink (written : List Bytes)
  | file (place : Location) (offset : Nat) (mode : OpenMode)
  | directory (place : Location)
  | device (d : Device)
  deriving Repr

structure Variable where
  value : Option Chars
  exported : Bool
  isReadOnly : Bool
  deriving DecidableEq, Repr

inductive ShellOption where
  | errexit | noglob | ignoreeof | interactive | monitor | noexec | stdin | xtrace | verbose | vi | emacs
  | noclobber | allexport | notify | nounset | privileged | nolog | debug
  deriving DecidableEq, Repr

namespace ShellOption

def table : List (ShellOption × String × Option Char) :=
  [(errexit, "errexit", some 'e'), (noglob, "noglob", some 'f'), (ignoreeof, "ignoreeof", some 'I'),
    (interactive, "interactive", some 'i'), (monitor, "monitor", some 'm'), (noexec, "noexec", some 'n'),
    (stdin, "stdin", some 's'), (xtrace, "xtrace", some 'x'), (verbose, "verbose", some 'v'), (vi, "vi", some 'V'),
    (emacs, "emacs", some 'E'), (noclobber, "noclobber", some 'C'), (allexport, "allexport", some 'a'),
    (notify, "notify", some 'b'), (nounset, "nounset", some 'u'), (privileged, "privileged", some 'p'),
    (nolog, "nolog", none), (debug, "debug", none)]

def ofLetter? (c : Char) : Option ShellOption := (table.find? fun p => p.2.2 == some c).map (·.1)

def ofName? (name : Chars) : Option ShellOption := (table.find? fun p => p.2.1.toList == name).map (·.1)

end ShellOption

/-- What running commands passes over, because a command left what it stands in. -/
inductive Skip where
  | none
  | break (levels : Nat)
  | continue (levels : Nat)
  | return
  deriving DecidableEq, Repr

inductive Local where
  | variable (name : Chars) (before : Option Variable)
  | options (before : List ShellOption)
  deriving Repr

structure OptionPlace where
  index : Nat
  offset : Option Nat
  deriving DecidableEq, Repr

structure Machine where
  process : Nat
  files : FileTree
  channels : Array Channel
  /-- The positions in `channels` that open descriptors stand for. -/
  descriptors : OrderedMap Nat Nat
  vars : OrderedMap Chars Variable
  locals : List (List Local)
  name : Chars
  arguments : List Chars
  optionPlace : OptionPlace
  functions : OrderedMap Chars Command
  aliases : OrderedMap Chars Chars
  found : List Chars
  documents : OrderedMap Nat Word
  nextDocument : Nat
  options : List ShellOption
  /-- What is done on signals, and on signal zero at the end. Doing nothing ignores a signal. -/
  traps : OrderedMap Nat Chars
  signals : List Nat
  /-- The status before what a signal asked for, while that is done. -/
  trapStatus : Option Nat
  status : Nat
  wordStatus : Nat
  skip : Skip
  loops : Nat
  depth : Nat
  line : Nat
  speaker : Option Chars
  lost : Bool
  jobs : List (Nat × Nat)
  lastJob : Option Nat
  umask : Nat
  isChild : Bool
  /-- The number of rounds of loops that a process may still run whose output is cut off later. -/
  roundsLeft : Option Nat

inductive Halt where
  | exit (status : Nat)
  /-- The shell became another program, which ended. -/
  | replaced (status : Nat)
  /-- A problem that ends the shell unless a command of it caught it. -/
  | error
  | killed (signal : Nat)
  deriving DecidableEq, Repr

abbrev Running := ExceptT Halt (StateM Machine)

def joinPieces (pieces : List Bytes) : Bytes := pieces.foldl (fun acc b => b ++ acc) []

/-- The content of a file after bytes were written at an offset. A gap is filled with zeros. -/
def overwrite (content : Bytes) (offset : Nat) (b : Bytes) : Bytes :=
  content.take offset ++ List.replicate (offset - content.length) 0 ++ b ++ content.drop (offset + b.length)

inductive ReadResult where
  | bytes (b : Bytes)
  | isDirectory
  | closed
  deriving DecidableEq, Repr

namespace Running

def setChannel (i : Nat) (c : Channel) : Running Unit :=
  modify fun m => { m with channels := m.channels.setIfInBounds i c }

def addChannel (c : Channel) : Running Nat := do
  let m ← get
  let i := m.channels.size
  set { m with channels := m.channels.push c }
  pure i

def connect (descriptor i : Nat) : Running Unit :=
  modify fun m => { m with descriptors := m.descriptors.insert descriptor i }

def disconnect (descriptor : Nat) : Running Unit :=
  modify fun m => { m with descriptors := m.descriptors.erase descriptor }

def channel? (descriptor : Nat) : Running (Option (Nat × Channel)) := do
  let m ← get
  pure ((m.descriptors.get? descriptor).bind fun i => m.channels[i]?.map fun c => (i, c))

def writeTo (i : Nat) (b : Bytes) : Running Bool := do
  let m ← get
  match m.channels[i]? with
  | some (.sink written) =>
    setChannel i (.sink (b :: written))
    pure true
  | some (.file _ _ .read) => pure false
  | some (.file place offset mode) =>
    let content := (m.files.content? place).getD []
    let start := if mode = .append then content.length else offset
    set { m with files := m.files.put place (.file (overwrite content start b)) }
    setChannel i (.file place (start + b.length) mode)
    pure true
  | some (.device d) => pure (d ≠ .full)
  | some (.source _) | some (.directory _) | none => pure false

def write (descriptor : Nat) (b : Bytes) : Running Bool := do
  match (← get).descriptors.get? descriptor with
  | some i => writeTo i b
  | none => pure false

def endlessLimit : Nat := 1048576

def read (descriptor : Nat) (limit : Option Nat) : Running ReadResult := do
  let cut (b : Bytes) : Bytes := match limit with
    | some n => b.take n
    | none => b
  match ← channel? descriptor with
  | some (i, .source rest) =>
    let b := cut rest
    setChannel i (.source (rest.drop b.length))
    pure (.bytes b)
  | some (_, .file _ _ .write) | some (_, .file _ _ .overwrite) | some (_, .file _ _ .append) => pure .closed
  | some (i, .file place offset mode) =>
    let b := cut ((((← get).files.content? place).getD []).drop offset)
    setChannel i (.file place (offset + b.length) mode)
    pure (.bytes b)
  | some (_, .directory _) => pure .isDirectory
  | some (_, .device .zero) | some (_, .device .full) =>
    pure (.bytes (List.replicate (limit.getD endlessLimit) 0))
  | some (_, .device _) => pure (.bytes [])
  | some (_, .sink _) | none => pure .closed

def writeChars (descriptor : Nat) (s : Chars) : Running Unit := do
  let _ ← write descriptor s.toBytes

def say (s : Chars) : Running Unit := do
  if !s.isEmpty && !(← write 1 s.toBytes) then modify fun m => { m with lost := true }

def messageStart : Running Chars := do
  let m ← get
  let speaker := match m.speaker with
    | some s => s ++ [':', ' ']
    | none => []
  pure (m.name ++ ": ".toList ++ Chars.ofNat m.line ++ ": ".toList ++ speaker)

def warn (problem : Chars) : Running Unit := do
  writeChars 2 ((← messageStart) ++ problem ++ ['\n'])

def giveUp {α : Type} : Running α := do
  modify fun m => { m with status := 2 }
  throw .error

def fail {α : Type} (problem : Chars) : Running α := do
  warn problem
  giveUp

def failText {α : Type} (problem : String) : Running α := fail (Chars.ofString problem)

def failNumber {α : Type} (s : Chars) : Running α := fail ("Illegal number: ".toList ++ s)

def count (s : Chars) : Running Nat :=
  match LeadingNumber.count? s with
  | some n => pure n
  | none => failNumber s

def note (name : Chars) : Running Unit :=
  modify fun m => { m with found := m.found.filter (· != name) ++ [name] }

def hasOption (o : ShellOption) : Running Bool := do return (← get).options.contains o

def setOption (o : ShellOption) (on : Bool) : Running Unit :=
  modify fun m => { m with
    options := if on then (if m.options.contains o then m.options else o :: m.options) else m.options.erase o }

def keepingDescriptors {α : Type} (a : Running α) : Running α := do
  let before := (← get).descriptors
  let restore : Running Unit := modify fun m => { m with descriptors := before }
  let x ← tryCatch a fun h => do
    restore
    throw h
  restore
  pure x

def readByte (descriptor : Nat) : Running (Option UInt8) := do
  match ← read descriptor (some 1) with
  | .bytes (b :: _) => pure (some b)
  | _ => pure none

def lookUp (name : Chars) : Running (Option Variable) := do return (← get).vars.get? name

def value? (name : Chars) : Running (Option Chars) := do return (← lookUp name).bind (·.value)

def noteChange (name : Chars) (value : Option Chars) : Running Unit := do
  if name == "OPTIND".toList then
    let n ← count (value.getD ['1'])
    modify fun m => { m with optionPlace := ⟨max n 1, none⟩ }

def assignQuietly (name : Chars) (value : Option Chars) (exports protects : Bool) : Running Unit := do
  let m ← get
  let v := (m.vars.get? name).getD ⟨none, false, false⟩
  if v.isReadOnly then fail (name ++ ": is read only".toList)
  let exported := v.exported || exports || m.options.contains .allexport
  set { m with vars := m.vars.insert name ⟨value, exported, protects⟩ }

def assign (name value : Chars) : Running Unit := do
  assignQuietly name (some value) false false
  noteChange name (some value)

def assignNamed (name value : Chars) : Running Unit := do
  if !Chars.isName name then fail (name ++ ": bad variable name".toList)
  assign name value

def removeVariable (name : Chars) : Running Unit := do
  match ← lookUp name with
  | none => pure ()
  | some v =>
    if v.isReadOnly then fail (name ++ ": is read only".toList)
    modify fun m => { m with vars := m.vars.erase name }
    noteChange name none

def remember (l : Local) : Running Unit :=
  modify fun m => match m.locals with
    | frame :: rest => { m with locals := (l :: frame) :: rest }
    | [] => m

def makeLocal (name : Chars) : Running Unit := do
  remember (.variable name (← lookUp name))

def leaveLocals : Running Unit := do
  match (← get).locals with
  | [] => pure ()
  | frame :: rest =>
    modify fun m => { m with locals := rest }
    for l in frame do
      match l with
      | .options before => modify fun m => { m with options := before }
      | .variable name (some v) =>
        modify fun m => { m with vars := m.vars.insert name v }
        noteChange name v.value
      | .variable name none =>
        modify fun m => { m with vars := m.vars.erase name }
        noteChange name none

def keepingVariables {α : Type} (a : Running α) : Running α := do
  modify fun m => { m with locals := [] :: m.locals }
  let x ← tryCatch a fun h => do
    leaveLocals
    throw h
  leaveLocals
  pure x

/-- Runs a step in a process of its own: only files and channels are shared. -/
def apart {α : Type} (a : Running α) : Running α := do
  let before ← get
  modify fun m => { m with
    isChild := true
    jobs := []
    trapStatus := none
    traps := .ofList (m.traps.toList.filter fun t => t.2.isEmpty) }
  let restore : Running Unit := modify fun m => { before with
    files := { m.files with current := before.files.current }
    channels := m.channels
    nextDocument := m.nextDocument
    documents := m.documents
    signals := m.signals }
  let x ← tryCatch a fun h => do
    restore
    throw h
  restore
  pure x

end Running

end ToolPipeline.Shell
