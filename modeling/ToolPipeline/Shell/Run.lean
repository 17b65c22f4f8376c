import ToolPipeline.Shell.Builtins.Condition
import ToolPipeline.Shell.Builtins.Directory
import ToolPipeline.Shell.Builtins.Names
import ToolPipeline.Shell.Builtins.Output
import ToolPipeline.Shell.Builtins.Processes
import ToolPipeline.Shell.Reader
import ToolPipeline.Shell.Redirecting

set_option autoImplicit false

/-!
Running scripts. Commands run one after another, also those of a pipeline: each is given what the one before
it wrote. `fuel` bounds the depth of a script; the rounds of loops are counted apart.
-/

namespace ToolPipeline.Shell

inductive Ending where
  | exited (status : Nat)
  | killed (signal : Nat)
  deriving DecidableEq, Repr

/-- The statuses by which a shell tells that a signal ended a process start behind this one. -/
def signalBase : Nat := 128

def Ending.status : Ending → Nat
  | exited n => n
  | killed n => signalBase + n

namespace Running

def roundLimit : Nat := 1000000000

/-- The most rounds of loops in a process whose output is cut off later. -/
def patience : Nat := 100000

def brokenPipe : Nat := 13

def countRound : Running Unit := do
  let m ← get
  match m.roundsLeft with
  | none => pure ()
  | some 0 => throw (.killed brokenPipe)
  | some (n + 1) => set { m with roundsLeft := some n }

/-- Runs rounds as long as they go on; each is given the status of the one before. -/
def rounds (step : Nat → Running (Nat × Bool)) : Nat → (status : Nat) → Running Nat
  | 0, status => pure status
  | n + 1, status => do
    countRound
    let (status, goesOn) ← step status
    if goesOn then rounds step n status else pure status

def roundsFor {α : Type} (step : α → Running (Nat × Bool)) : List α → (status : Nat) → Running Nat
  | [], status => pure status
  | x :: rest, _ => do
    countRound
    let (status, goesOn) ← step x
    if goesOn then roundsFor step rest status else pure status

def leaveRound : Running Skip := do
  let m ← get
  match m.skip with
  | .none => pure .none
  | .return => pure .return
  | .break levels =>
    set { m with skip := if levels ≤ 1 then .none else .break (levels - 1) }
    pure (.break 1)
  | .continue levels =>
    set { m with skip := if levels ≤ 1 then .none else .continue (levels - 1) }
    pure (if levels ≤ 1 then .continue 1 else .break 1)

def Skip.goesOn : Skip → Bool
  | .none | .continue _ => true
  | .break _ | .return => false

def inLoop {α : Type} (a : Running α) : Running α := do
  modify fun m => { m with loops := m.loops + 1 }
  let x ← a
  modify fun m => { m with loops := m.loops - 1 }
  pure x

def eachLine (step : Command → Running Nat) : Nat → Source → (status : Nat) → Running Nat
  | 0, _, status => pure status
  | n + 1, source, status => do
    let m ← get
    match { source with aliases := m.aliases, nextId := m.nextDocument, documents := [] }.readLine with
    | .error p =>
      set { m with line := p.line }
      failText p.problem.message
    | .ok (c, source) =>
      let add (t : OrderedMap Nat Word) (d : Nat × Word) : OrderedMap Nat Word := t.insert d.1 d.2
      set { m with nextDocument := source.nextId, documents := source.documents.foldl add m.documents }
      match c with
      | none => pure status
      | some c =>
        let n' ← step c
        let status := if c.isNothing then status else n'
        if (← get).skip = .none then eachLine step n source status else pure status

def reportEnding (e : Ending) : Running Unit := do
  match e with
  | .exited _ => pure ()
  | .killed n =>
    let s := Signal.report n
    if !s.isEmpty then writeChars 2 (s.toList ++ ['\n'])

def checkSignals : Running Unit := do
  let m ← get
  if !m.isChild then
    match m.signals.find? fun n => !m.traps.contains n && !Signal.isHarmless n with
    | some n => throw (.killed n)
    | none => pure ()

structure Call where
  words : List Chars
  isSpecial : Bool
  isBuiltin : Bool
  functions : Bool
  path : Option Chars
  assigns : Bool
  deriving DecidableEq, Repr

def calledBy (path : Option Chars) : List Chars → Option (Option Chars × List Chars)
  | [] => none
  | ['-', '-'] :: rest => if rest.isEmpty then none else some (path, rest)
  | ('-' :: c :: letters) :: rest =>
    if (c :: letters).all (· == 'p') then calledBy (some Builtin.defaultPath) rest else none
  | words => some (path, words)

def resolve : Nat → Call → Running Call
  | 0, c => pure c
  | fuel + 1, c => do
    match c.words with
    | [] => pure c
    | name :: rest =>
      match ← Builtin.callee c.functions c.path name with
      | .builtin =>
        let c := { c with isBuiltin := true, assigns := Builtin.assigns name }
        if name == "command".toList then
          match calledBy c.path rest with
          | none => pure c
          | some (path, words) => resolve fuel { c with words, path, functions := false, isBuiltin := false }
        else pure c
      | _ => pure { c with isBuiltin := false, assigns := false }

def callOf (words : List Chars) : Running Call := do
  let name := words.headD []
  resolve (words.length + 1) ⟨words, Builtin.isSpecial name, false, true, none, false⟩

def startOptions : Nat → (isCommand : Bool) → List Chars → Running (Bool × List Chars)
  | 0, isCommand, arguments => pure (isCommand, arguments)
  | fuel + 1, isCommand, arguments => do
    match arguments with
    | ['-'] :: rest | ['-', '-'] :: rest => pure (isCommand, rest)
    | (sign :: letters) :: rest =>
      if sign == '-' || sign == '+' then
        let others := letters.filter fun c => c != 'c' && c != 'l'
        let rest ← Builtin.switchLetters (sign == '-') others rest
        startOptions fuel (isCommand || letters.contains 'c') rest
      else pure (isCommand, arguments)
    | _ => pure (isCommand, arguments)

def traceStart : Running Chars := do
  return (← value? "PS4".toList).getD "+ ".toList

def freshMachine (m : Machine) (name : Chars) : Machine where
  process := m.process + 1
  files := m.files
  channels := m.channels
  descriptors := m.descriptors
  vars := .ofList ((m.vars.toList.filter fun v => v.2.exported && v.2.value.isSome).map fun v =>
    (v.1, { v.2 with isReadOnly := false }))
  locals := []
  name
  arguments := []
  optionPlace := ⟨1, none⟩
  functions := ∅
  aliases := ∅
  found := []
  documents := ∅
  nextDocument := 0
  options := []
  traps := ∅
  signals := []
  trapStatus := none
  status := 0
  wordStatus := 0
  skip := .none
  loops := 0
  depth := 0
  line := 0
  speaker := none
  lost := false
  jobs := []
  lastJob := none
  umask := m.umask
  isChild := false
  roundsLeft := m.roundsLeft

def setStartVariables : Running Unit := do
  let place := Builtin.pathOf (← get).files.current
  assignQuietly "IFS".toList (some [' ', '\t', '\n']) false false
  assignQuietly "OPTIND".toList (some ['1']) false false
  assignQuietly "PS1".toList (some "# ".toList) false false
  assignQuietly "PS2".toList (some "> ".toList) false false
  assignQuietly "PS4".toList (some "+ ".toList) false false
  assignQuietly "PWD".toList (some place) true false
  if (← value? "PATH".toList).isNone then assignQuietly "PATH".toList (some Builtin.defaultPath) false false

def takeWritten (i : Nat) : Running Bytes := do
  let b := match (← get).channels[i]? with
    | some (.sink pieces) => joinPieces pieces
    | _ => []
  setChannel i (.sink [])
  pure b

def standardScript : Running Chars := do
  match ← read 0 none with
  | .bytes b => pure (Chars.ofBytes b)
  | _ => pure []

def scriptIn (path : Chars) : Running Chars := do
  let i ← openForReading path
  keepingDescriptors do
    connect 0 i
    standardScript

def setStatus (n : Nat) : Running Unit := modify fun m => { m with status := n }

def depthLimit : Nat := 1000

mutual

/-- Runs a command and gives its status. What tests the status keeps a strict shell from ending. -/
def command : Nat → (tested : Bool) → Command → Running Nat
  | 0, _, _ => throw (.exit 2)
  | fuel + 1, tested, c => do
    if ← hasOption .noexec then return (← get).status
    answerSignals fuel
    let ends ← match c with
      | .nothing => pure false
      | .negation c => do
        let n ← command fuel true c
        setStatus (if n = 0 then 1 else 0)
        pure false
      | .redirected line body rs => do
        modify fun m => { m with line }
        let openings ← rs.mapM (openingOf (output fuel))
        let (n, opened) ← keepingDescriptors do
          if ← carryOutAll (output fuel) openings then return (← command fuel tested body, true)
          else return (2, false)
        setStatus n
        pure !opened
      | .simple line assignments words rs => do
        setStatus (← simple fuel tested line assignments words rs)
        pure true
      | .subshell line body rs => do
        modify fun m => { m with line }
        let openings ← rs.mapM (openingOf (output fuel))
        let e ← child fuel do
          for o in openings do carryOut (output fuel) o
          command fuel tested body
        reportEnding e
        setStatus e.status
        pure true
      | .background c => do
        background fuel c
        setStatus 0
        pure false
      | .pipeline stages => do
        setStatus (← pipeline fuel tested none stages)
        pure true
      | .sequence first second => do
        let _ ← command fuel tested first
        if (← get).skip = .none then setStatus (← command fuel tested second)
        pure false
      | .both first second => do
        let n ← command fuel true first
        if n = 0 && (← get).skip = .none then setStatus (← command fuel tested second)
        pure false
      | .either first second => do
        let n ← command fuel true first
        if n ≠ 0 && (← get).skip = .none then setStatus (← command fuel tested second)
        pure false
      | .branch condition body otherwise => do
        let n ← command fuel true condition
        if (← get).skip = .none then
          if n = 0 then setStatus (← command fuel tested body)
          else if otherwise.isNothing then setStatus 0
          else setStatus (← command fuel tested otherwise)
        pure false
      | .loop negated condition body => do
        setStatus (← inLoop (rounds (round fuel tested negated condition body) roundLimit 0))
        pure false
      | .each line name items body => do
        modify fun m => { m with line }
        let values := (← items.mapM (wordFields (output fuel))).flatten
        let step (v : Chars) : Running (Nat × Bool) := do
          assign name v
          let n ← command fuel tested body
          return (n, Skip.goesOn (← leaveRound))
        setStatus (← inLoop (roundsFor step values 0))
        pure false
      | .choice line word branches => do
        modify fun m => { m with line }
        let text ← wordText (output fuel) .single word
        setStatus (← choice fuel tested text branches)
        pure false
      | .define _ name body => do
        modify fun m => { m with functions := m.functions.insert name body }
        setStatus 0
        pure false
    answerSignals fuel
    let m ← get
    if ends && !tested && m.status ≠ 0 && m.options.contains .errexit then throw (.exit m.status)
    pure m.status

def round : Nat → (tested negated : Bool) → (condition body : Command) → (status : Nat) → Running (Nat × Bool)
  | 0, _, _, _, _, _ => throw (.exit 2)
  | fuel + 1, tested, negated, condition, body, status => do
    let n ← command fuel true condition
    match ← leaveRound with
    | .return => pure (n, false)
    | .break _ => pure (status, false)
    | .continue _ => pure (status, true)
    | .none =>
      if (n == 0) == negated then pure (status, false)
      else
        let n ← command fuel tested body
        return (n, Skip.goesOn (← leaveRound))

def choice : Nat → (tested : Bool) → Chars → List (List Word × Command) → Running Nat
  | 0, _, _, _ => throw (.exit 2)
  | fuel + 1, tested, text, branches => do
    for (patterns, body) in branches do
      for w in patterns do
        if Pattern.covers (← wordPattern (output fuel) w) text then
          if body.isNothing then return 0 else return (← command fuel tested body)
    pure 0

def child : Nat → Running Nat → Running Ending
  | 0, _ => throw (.exit 2)
  | fuel + 1, a => do
    let e ← apart (toEnd fuel a)
    checkSignals
    pure e

def toEnd : Nat → Running Nat → Running Ending
  | 0, _ => throw (.exit 2)
  | fuel + 1, a => do
    let attempt (a : Running Nat) : Running (Except Halt Unit) := tryCatch (a *> pure (.ok ())) fun h => pure (.error h)
    let r ← attempt a
    let reached := (← get).status
    let n ← match r with
      | .ok () | .error .error => pure reached
      | .error (.exit n) => pure n
      | .error (.replaced n) => return .exited n
      | .error (.killed n) => return .killed n
    atEnd fuel n

def atEnd : Nat → (status : Nat) → Running Ending
  | 0, n => pure (.exited n)
  | fuel + 1, n => do
    let m ← get
    match m.traps.get? 0 with
    | none => pure (.exited n)
    | some action =>
      set { m with status := n, trapStatus := some n, skip := .none, traps := m.traps.erase 0 }
      let r : Except Halt Unit ← tryCatch (evaluate fuel false action *> pure (.ok ())) fun h => pure (.error h)
      match r with
      | .ok () => pure (.exited n)
      | .error .error => return .exited (← get).status
      | .error (.exit n) | .error (.replaced n) => pure (.exited n)
      | .error (.killed n) => pure (.killed n)

def output : Nat → Command → Running Bytes
  | 0, _ => throw (.exit 2)
  | fuel + 1, c => do
    let i ← addChannel (.sink [])
    let e ← child fuel do
      connect 1 i
      command fuel false c
    reportEnding e
    modify fun m => { m with wordStatus := if c.isNothing then m.wordStatus else e.status }
    takeWritten i

def pipeline : Nat → (tested : Bool) → (input : Option Bytes) → List Command → Running Nat
  | 0, _, _, _ => throw (.exit 2)
  | _ + 1, _, _, [] => pure 0
  | fuel + 1, tested, input, c :: rest => do
    let connectInput : Running Unit := do
      match input with
      | some b => connect 0 (← addChannel (.source b))
      | none => pure ()
    if rest.isEmpty then
      let e ← child fuel do
        connectInput
        command fuel tested c
      reportEnding e
      pure e.status
    else
      let i ← addChannel (.sink [])
      let _ ← child fuel do
        connectInput
        connect 1 i
        modify fun m => { m with roundsLeft := some (m.roundsLeft.getD patience) }
        command fuel tested c
      pipeline fuel tested (some (← takeWritten i)) rest

def background : Nat → Command → Running Unit
  | 0, _ => throw (.exit 2)
  | fuel + 1, c => do
    let e ← child fuel do
      connect 0 (← addChannel (.device .null))
      command fuel false c
    modify fun m =>
      let id := (m.lastJob.getD m.process) + 1
      { m with jobs := m.jobs ++ [(id, e.status)], lastJob := some id }

def answerSignals : Nat → Running Unit
  | 0 => pure ()
  | fuel + 1 => do
    let m ← get
    if m.isChild || m.skip ≠ .none then pure ()
    else
      match m.signals.mergeSort with
      | [] => pure ()
      | n :: rest =>
        let before := m.trapStatus
        set { m with signals := rest, trapStatus := some (before.getD m.status) }
        match m.traps.get? n with
        | some action => let _ ← evaluate fuel false action
        | none => pure ()
        modify fun m' => { m' with
          status := if m'.skip = .return then m'.status else before.getD m.status
          trapStatus := before }
        answerSignals fuel

def evaluate : Nat → (tested : Bool) → Chars → Running Nat
  | 0, _, _ => throw (.exit 2)
  | fuel + 1, tested, text => do
    let m ← get
    eachLine (command fuel tested) (text.length + 2) (.ofText text m.aliases m.nextDocument) 0

def simple : Nat → (tested : Bool) → (line : Nat) → (assignments words : List Word) → List Redirection → Running Nat
  | 0, _, _, _, _, _ => throw (.exit 2)
  | fuel + 1, tested, line, assignments, words, rs => do
    modify fun m => { m with line, wordStatus := 0 }
    let words ← arguments fuel words
    let c ← callOf words
    let errors := (← get).descriptors.get? 2
    let openings ← rs.mapM (openingOf (output fuel))
    let replaces := c.isBuiltin && c.words.head? == some "exec".toList
    let isScoped := !words.isEmpty && !c.isSpecial
    let body : Running Nat := do
      if !(← carryOutAll (output fuel) openings) then
        modify fun m => { m with status := 2 }
        if c.isSpecial && !words.isEmpty then throw .error else pure 2
      else
        let texts ← assignments.mapM fun w => do
          let text ← wordText (output fuel) .assignment w
          let name := text.takeWhile (· != '=')
          let value := text.drop (name.length + 1)
          if isScoped then makeLocal name
          assignQuietly name (some value) (isScoped || (replaces && 1 < c.words.length)) false
          noteChange name (some value)
          pure text
        if (← hasOption .xtrace) && !(texts.isEmpty && words.isEmpty) then
          let trace := (← traceStart) ++ Chars.join [' '] (texts ++ words) ++ ['\n']
          match errors with
          | some i => let _ ← writeTo i trace.toBytes
          | none => pure ()
        if words.isEmpty then return (← get).wordStatus else call fuel tested c
    let body := if isScoped then keepingVariables body else body
    if replaces then body else keepingDescriptors body

/-- The fields of the words of a command. Behind the names of some commands, assignments stay whole. -/
def arguments : Nat → List Word → Running (List Chars)
  | 0, _ => throw (.exit 2)
  | fuel + 1, words => do
    let mut fields : List Chars := []
    let mut assigns := false
    for w in words do
      if assigns && w.isAssignment then fields := fields ++ [← wordText (output fuel) .assignment w]
      else
        let more ← wordFields (output fuel) w
        fields := fields ++ more
        if !more.isEmpty && !assigns then assigns := (← callOf fields).assigns
    pure fields

def call : Nat → (tested : Bool) → Call → Running Nat
  | 0, _, _ => throw (.exit 2)
  | fuel + 1, tested, c => do
    match c.words with
    | [] => pure 0
    | name :: arguments =>
      let callee ← Builtin.callee c.functions c.path name
      match callee with
      | .builtin => callBuiltin fuel tested c.isSpecial name arguments
      | .function body => callFunction fuel tested body arguments
      | .program program _ =>
        if !name.contains '/' then note name
        let e ← callProgram fuel program name arguments
        reportEnding e
        pure e.status
      | .missing | .blocked | .forbidden =>
        warn (name ++ ": ".toList ++ ((Builtin.calleeProblem? callee).getD "").toList)
        pure (if callee matches .forbidden then 126 else 127)

def callProgram : Nat → (program name : Chars) → List Chars → Running Ending
  | 0, _, _, _ => throw (.exit 2)
  | fuel + 1, program, name, arguments => do
    match Program.ofName? program with
    | some p => return .exited (← p name arguments)
    | none =>
      let before ← get
      set (freshMachine before name)
      let e ← toEnd fuel (shell fuel arguments)
      modify fun m => { before with
        files := { m.files with current := before.files.current }
        channels := m.channels }
      pure e

def shell : Nat → List Chars → Running Nat
  | 0, _ => throw (.exit 2)
  | fuel + 1, arguments => do
    setStartVariables
    let (isCommand, rest) ← startOptions (arguments.length + 1) false arguments
    let readsInput ← hasOption .stdin
    match isCommand, rest with
    | true, [] => failText "-c requires an argument"
    | true, text :: more =>
      modify fun m => { m with name := more.headD m.name, arguments := more.tail }
      evaluate fuel false text
    | false, first :: more =>
      if readsInput then
        modify fun m => { m with arguments := rest }
        evaluate fuel false (← standardScript)
      else
        let text ← scriptIn first
        modify fun m => { m with name := first, arguments := more }
        evaluate fuel false text
    | false, [] =>
      setOption .stdin true
      evaluate fuel false (← standardScript)

def callFunction : Nat → (tested : Bool) → Command → List Chars → Running Nat
  | 0, _, _, _ => throw (.exit 2)
  | fuel + 1, tested, body, arguments => do
    let before ← get
    if depthLimit ≤ before.depth then failText "Maximum function recursion depth (1000) reached"
    set { before with arguments, optionPlace := ⟨1, none⟩, loops := 0, depth := before.depth + 1 }
    let restore : Running Unit := modify fun m => { m with
      arguments := before.arguments
      optionPlace := before.optionPlace
      loops := before.loops
      depth := before.depth
      skip := if m.skip = .return then .none else m.skip }
    let _ ← tryCatch (command fuel tested body) fun h => do
      restore
      throw h
    restore
    return (← get).status

/-- Calls a command of the shell. A problem of one that is not special ends only the command. -/
def callBuiltin : Nat → (tested isSpecial : Bool) → (name : Chars) → List Chars → Running Nat
  | 0, _, _, _, _ => throw (.exit 2)
  | fuel + 1, tested, isSpecial, name, arguments => do
    let before := (← get).speaker
    let restore : Running Unit := modify fun m => { m with speaker := before }
    modify fun m => { m with speaker := some name }
    let r : Option Nat ← tryCatch (do return some (← builtin fuel tested name arguments)) fun h => do
      if h = .error && !isSpecial then pure none
      else
        restore
        throw h
    let status ← match r with
      | none => pure (← get).status
      | some n =>
        if (← get).lost then
          modify fun m => { m with lost := false }
          warn (name ++ ": I/O error".toList)
          pure (n ||| 1)
        else pure n
    restore
    pure status

def builtin : Nat → (tested : Bool) → (name : Chars) → List Chars → Running Nat
  | 0, _, _, _ => throw (.exit 2)
  | fuel + 1, tested, name, arguments => do
    match String.ofList name with
    | ":" | "true" | "jobs" => pure 0
    | "false" => pure 1
    | "." => runFile fuel arguments
    | "[" => Builtin.test true arguments
    | "alias" => Builtin.defineAlias arguments
    | "bg" | "fg" => Builtin.noJob arguments
    | "break" => Builtin.leaveLoops false arguments
    | "continue" => Builtin.leaveLoops true arguments
    | "cd" | "chdir" => Builtin.cd arguments
    | "command" => Builtin.commandInfo arguments
    | "echo" => Builtin.echo arguments
    | "eval" => if arguments.isEmpty then pure 0 else evaluate fuel tested (Chars.join [' '] arguments)
    | "exec" => replace fuel arguments
    | "exit" => Builtin.exit arguments
    | "export" => Builtin.mark name true false arguments
    | "getopts" => Builtin.getopts arguments
    | "hash" => Builtin.hash arguments
    | "kill" => Builtin.kill arguments
    | "local" => Builtin.local arguments
    | "printf" => Builtin.printf arguments
    | "pwd" => Builtin.pwd arguments
    | "read" => Builtin.read arguments
    | "readonly" => Builtin.mark name false true arguments
    | "return" => Builtin.return arguments
    | "set" => Builtin.setOptions arguments
    | "shift" => Builtin.shift arguments
    | "test" => Builtin.test false arguments
    | "times" => Builtin.times arguments
    | "trap" => Builtin.trap arguments
    | "type" => Builtin.type arguments
    | "ulimit" => Builtin.ulimit arguments
    | "umask" => Builtin.umask arguments
    | "unalias" => Builtin.unalias arguments
    | "unset" => Builtin.unset arguments
    | "wait" => Builtin.wait arguments
    | _ => pure 127

def runFile : Nat → List Chars → Running Nat
  | 0, _ => throw (.exit 2)
  | fuel + 1, arguments => do
    let (_, operands) ← Builtin.parse "" arguments
    match operands with
    | [] => pure 0
    | name :: _ =>
      let files := (← get).files
      let directories := Chars.splitOn ':' ((← value? "PATH".toList).getD [])
      let path ← if name.contains '/' then pure name
        else
          match (directories.map fun d => Builtin.inDirectory d name).find? fun p => files.holdsFile p.toText with
          | some p => pure p
          | none => fail (name ++ ": not found".toList)
      let text ← scriptIn path
      modify fun m => { m with speaker := some path }
      let n ← evaluate fuel false text
      modify fun m => { m with skip := if m.skip = .return then .none else m.skip }
      pure n

def replace : Nat → List Chars → Running Nat
  | 0, _ => throw (.exit 2)
  | _ + 1, [] => pure 0
  | fuel + 1, name :: arguments => do
    let files := (← get).files
    let directories := Chars.splitOn ':' ((← value? "PATH".toList).getD [])
    let callee := if name.contains '/' then
        match Program.ofPath? name with
        | some n => .program n name
        | none => if files.holds name.toText then .forbidden else .missing
      else Builtin.searchPath files directories name
    match callee with
    | .program program _ =>
      match ← callProgram fuel program name arguments with
      | .exited n => throw (.replaced n)
      | .killed n => throw (.killed n)
    | c =>
      warn (name ++ ": ".toList ++ ((Builtin.calleeProblem? c).getD "").toList)
      throw (.exit (if c matches .missing then 127 else 126))

end

def limit : Nat := 1000000

end Running

end ToolPipeline.Shell
