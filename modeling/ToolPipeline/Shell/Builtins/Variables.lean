import ToolPipeline.Shell.Builtins.Basic
import ToolPipeline.Shell.Fields

set_option autoImplicit false

/-!
The commands of the shell that work on its variables, arguments and settings.
-/

namespace ToolPipeline.Shell.Builtin

def mark (name : Chars) (exports protects : Bool) : Builtin := fun arguments => do
  let (given, operands) ← parse "p" arguments
  if operands.isEmpty || !given.isEmpty then
    sayLines (← variableLines name fun v => if exports then v.exported else v.isReadOnly)
  else
    for a in operands do
      let n := a.takeWhile (· != '=')
      let m ← get
      match if n.length < a.length then none else m.vars.get? n with
      | some v =>
        set { m with vars := m.vars.insert n { v with
          exported := v.exported || exports, isReadOnly := v.isReadOnly || protects } }
      | none =>
        if !Chars.isName n then Running.fail (n ++ ": bad variable name".toList)
        let value := if n.length < a.length then some (a.drop (n.length + 1)) else none
        Running.assignQuietly n value exports protects
        if value.isSome then Running.noteChange n value
  pure 0

def unset : Builtin := fun arguments => do
  let (given, operands) ← parse "vf" arguments
  for name in operands do
    if given.getLast?.any fun l => l.letter == 'f' then
      modify fun m => { m with functions := m.functions.erase name }
    else
      if !Chars.isName name then Running.fail (name ++ ": bad variable name".toList)
      Running.removeVariable name
  pure 0

def «local» : Builtin := fun arguments => do
  if (← get).locals.isEmpty then Running.failText "not in a function"
  let (_, operands) ← parse "" arguments
  for a in operands do
    if a == ['-'] then Running.remember (.options (← get).options)
    else
      let name := a.takeWhile (· != '=')
      if !Chars.isName name then Running.fail (name ++ ": bad variable name".toList)
      Running.makeLocal name
      if name.length < a.length then Running.assign name (a.drop (name.length + 1))
      else if (← Running.lookUp name).isNone then Running.assignQuietly name none false false
  pure 0

def optionLines (asCommands : Bool) : Running (List Chars) := do
  let on := (← get).options
  let lines := ShellOption.table.map fun o =>
    if asCommands then "set ".toList ++ (if on.contains o.1 then "-o " else "+o ").toList ++ o.2.1.toList
    else o.2.1.toList ++ List.replicate (16 - o.2.1.length) ' ' ++ (if on.contains o.1 then "on" else "off").toList
  pure (if asCommands then lines else "Current option settings".toList :: lines)

/-- Switches a setting. The two ways of editing exclude each other. -/
def switch (o : ShellOption) (on : Bool) : Running Unit := do
  if on && o = .vi then Running.setOption .emacs false
  if on && o = .emacs then Running.setOption .vi false
  Running.setOption o on

def switchLetters (on : Bool) : Chars → List Chars → Running (List Chars)
  | [], rest => pure rest
  | 'o' :: letters, rest => do
    match rest with
    | [] =>
      sayLines (← optionLines !on)
      switchLetters on letters []
    | name :: rest =>
      match ShellOption.ofName? name with
      | some o => switch o on
      | none => Running.fail ("Illegal option -o ".toList ++ name)
      switchLetters on letters rest
  | c :: letters, rest => do
    match ShellOption.ofLetter? c with
    | some o => switch o on
    | none => Running.fail ("Illegal option -".toList ++ [c])
    switchLetters on letters rest

def setArguments (l : List Chars) : Running Unit :=
  modify fun m => { m with arguments := l, optionPlace := ⟨1, none⟩ }

/-- Switches settings. The answer are the operands behind them, if the end of the settings is marked or there are
some. -/
def switchAll : Nat → List Chars → Running (Option (List Chars))
  | 0, _ => pure none
  | fuel + 1, arguments => do
    match arguments with
    | [] => pure none
    | ['-', '-'] :: rest => pure (some rest)
    | ['-'] :: rest =>
      Running.setOption .xtrace false
      Running.setOption .verbose false
      pure (if rest.isEmpty then none else some rest)
    | ('-' :: letters) :: rest => switchAll fuel (← switchLetters true letters rest)
    | ('+' :: letters) :: rest => switchAll fuel (← switchLetters false letters rest)
    | _ => pure (some arguments)

def setOptions : Builtin := fun arguments => do
  if arguments.isEmpty then
    sayLines (← variableLines [] fun v => v.value.isSome)
  else
    match ← switchAll (arguments.length + 1) arguments with
    | some l => setArguments l
    | none => pure ()
  pure 0

def shift : Builtin := fun arguments => do
  let n ← match arguments with
    | [] => pure 1
    | a :: _ => Running.count a
  let m ← get
  if m.arguments.length < n then Running.failText "can't shift that many"
  setArguments (m.arguments.drop n)
  pure 0

def sayError (s : Chars) : Running Unit := Running.writeChars 2 (s ++ ['\n'])

structure OptionFound where
  name : Char
  value : Option Chars
  rest : Chars
  behind : List Chars

def takeOption (known : Chars) (c : Char) (rest : Chars) (behind : List Chars) : Running OptionFound := do
  let silent := known.head? == some ':'
  match takesValue? known c with
  | none =>
    if silent then pure ⟨'?', some [c], rest, behind⟩
    else
      sayError ("Illegal option -".toList ++ [c])
      pure ⟨'?', none, rest, behind⟩
  | some false => pure ⟨c, some [], rest, behind⟩
  | some true =>
    if !rest.isEmpty then pure ⟨c, some rest, [], behind⟩
    else
      match behind with
      | v :: behind => pure ⟨c, some v, [], behind⟩
      | [] =>
        if silent then pure ⟨':', some [c], [], behind⟩
        else
          sayError ("No arg for -".toList ++ [c] ++ " option".toList)
          pure ⟨'?', none, [], behind⟩

def getopts : Builtin := fun arguments => do
  match arguments with
  | known :: name :: given =>
    let m ← get
    let all := if given.isEmpty then m.arguments else given
    let place : OptionPlace := if all.length + 1 < m.optionPlace.index then ⟨1, none⟩ else m.optionPlace
    let started : Option Chars := match place.offset with
      | some n =>
        if place.index ≤ 1 then none
        else ((all[place.index - 2]?).map fun a => a.drop n).filter fun a => !a.isEmpty
      | none => none
    let behind := all.drop (place.index - 1)
    let next : Option (Chars × List Chars) := match started with
      | some s => some (s, behind)
      | none =>
        match behind with
        | ('-' :: c :: more) :: rest => some (c :: more, rest)
        | _ => none
    let finish (done : Bool) (c : Char) (rest : Chars) (behind : List Chars) : Running Nat := do
      let index := all.length - behind.length + 1
      Running.assignQuietly "OPTIND".toList (some (Chars.ofNat index)) false false
      Running.assignNamed name [c]
      let offset := if rest.isEmpty then none else (all[index - 2]?).map fun a => a.length - rest.length
      modify fun m => { m with optionPlace := ⟨index, offset⟩ }
      pure (if done then 1 else 0)
    match next with
    | none => finish true '?' [] behind
    | some (['-'], rest) => if started.isNone then finish true '?' [] rest else letter known '-' [] rest finish
    | some (c :: more, rest) => letter known c more rest finish
    | some ([], rest) => finish true '?' [] rest
  | _ => Running.failText "Usage: getopts optstring var [arg...]"
where
  letter (known : Chars) (c : Char) (more : Chars) (rest : List Chars)
      (finish : Bool → Char → Chars → List Chars → Running Nat) : Running Nat := do
    let found ← takeOption known c more rest
    match found.value with
    | some v => Running.assign "OPTARG".toList v
    | none => Running.removeVariable "OPTARG".toList
    finish false found.name found.rest found.behind

/-- Reads a line. Escaped characters do not separate; an escaped line end goes on with the next line. -/
def readLine (raw : Bool) : Nat → (segments : List Segment) → (plain : List Glyph) → Running (List Segment × Bool)
  | 0, segments, plain => pure (close segments plain, false)
  | fuel + 1, segments, plain => do
    match ← Running.readByte 0 with
    | none => pure (close segments plain, false)
    | some b =>
      let c := Char.ofNat b.toNat
      if c == '\x00' then readLine raw fuel segments plain
      else if c == '\n' then pure (close segments plain, true)
      else if c == '\\' && !raw then
        match ← nextCharacter fuel with
        | none => pure (close segments plain, false)
        | some '\n' => readLine raw fuel (⟨plain.reverse, .atSeparators⟩ :: segments) []
        | some c =>
          readLine raw fuel (⟨[.literal c], .never⟩ :: ⟨plain.reverse, .atSeparators⟩ :: segments) []
      else readLine raw fuel segments (.literal c :: plain)
where
  close (segments : List Segment) (plain : List Glyph) : List Segment :=
    ((⟨plain.reverse, .atSeparators⟩ : Segment) :: segments).reverse
  nextCharacter : Nat → Running (Option Char)
    | 0 => pure none
    | fuel + 1 => do
      match ← Running.readByte 0 with
      | none => pure none
      | some 0 => nextCharacter fuel
      | some b => pure (some (Char.ofNat b.toNat))

def pending : Running Nat := do
  match ← Running.channel? 0 with
  | some (_, .source rest) => pure rest.length
  | some (_, .file l offset _) => return (((← get).files.content? l).getD []).length - offset
  | _ => pure 0

def separators : Running Chars := do
  match (← get).vars.get? "IFS".toList with
  | some ⟨some s, _, _⟩ => pure s
  | _ => pure [' ', '\t', '\n']

def distribute : List Chars → List (List Glyph) → Running Unit
  | [], _ => pure ()
  | name :: names, [] => do
    Running.assignNamed name []
    distribute names []
  | name :: names, f :: fields => do
    Running.assignNamed name (Glyph.text f)
    distribute names fields

def read : Builtin := fun arguments => do
  let (given, names) ← parse "p:r" arguments
  if names.isEmpty then Running.failText "arg count"
  let (line, complete) ← readLine (given.any fun l => l.letter == 'r') ((← pending) + 1) [] []
  distribute names (Segment.split (← separators) (some names.length) line)
  pure (if complete then 0 else 1)

end ToolPipeline.Shell.Builtin
