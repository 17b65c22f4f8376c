import ToolPipeline.Shell.Programs.Basic

set_option autoImplicit false

/-!
Writing the first part of files. No more is taken from the standard input than is needed to find its end; from a
pipe it is taken in blocks.
-/

namespace ToolPipeline.Shell.Program

namespace Head

structure Portion where
  byLines : Bool
  /-- Whether the count says how much is left out at the end. -/
  fromEnd : Bool
  count : Nat
  separator : UInt8
  deriving DecidableEq, Repr

inductive Titles where
  | several
  | always
  | never
  deriving DecidableEq, Repr

structure Settings where
  portion : Portion
  titles : Titles
  deriving DecidableEq, Repr

def standard : Settings := ⟨⟨true, false, 10, 10⟩, .several⟩

def blockSize : Nat := 8192

def Portion.cut (p : Portion) (s : Bytes) : Bytes :=
  if p.byLines then
    let l := lines p.separator s
    (if p.fromEnd then l.take (l.length - p.count) else l.take p.count).flatten
  else if p.fromEnd then s.take (s.length - p.count)
  else s.take p.count

def specs : List OptionSpec :=
  [.valued 'c' "bytes", .valued 'n' "lines", .wordOnly "-presume-input-pipe" .absent, .plain 'q' "quiet",
    ⟨"q", none, some "silent", .absent⟩, .plain 'v' "verbose", .plain 'z' "zero-terminated"] ++
    commonOptions ++ "0123456789".toList.map .letterOnly

def title : Title := ⟨"head", ["[OPTION]... [FILE]..."]⟩

def countProblem (byLines : Bool) (s : Chars) : UnitCount → Chars
  | .tooLarge => (if byLines then "invalid number of lines: " else "invalid number of bytes: ").toList ++
      Quoting.value s ++ ": Value too large for defined data type".toList
  | _ => (if byLines then "invalid number of lines: " else "invalid number of bytes: ").toList ++ Quoting.value s

inductive Problem where
  | count (message : Chars)
  | usage (message : Chars)
  | instead (g : Given)
  deriving DecidableEq, Repr

def setCount (s : Settings) (byLines fromEnd : Bool) (text : Chars) : Except Problem Settings :=
  match UnitCount.read text with
  | .count n => .ok { s with portion := { s.portion with byLines, fromEnd, count := n } }
  | p => .error (.count (countProblem byLines text p))

def add (s : Settings) : Given → Except Problem Settings
  | .operand _ => .ok s
  | .problem m => .error (.usage m)
  | .option "help" v => .error (.instead (.option "help" v))
  | .option "version" v => .error (.instead (.option "version" v))
  | .option id value =>
    let text := value.getD []
    let (fromEnd, text) := if text.head? == some '-' then (true, text.drop 1) else (false, text)
    match id with
    | "c" => setCount s false fromEnd text
    | "n" => setCount s true fromEnd text
    | "q" => .ok { s with titles := .never }
    | "v" => .ok { s with titles := .always }
    | "z" => .ok { s with portion := { s.portion with separator := 0 } }
    | "-presume-input-pipe" => .ok s
    | _ => .error (.usage ("invalid trailing option -- ".toList ++ id.toList))

/-- Reads letters behind a count that stands for itself; the unit of the count is the answer too. -/
def letters (s : Settings) (unit : Chars) : Chars → Except Problem (Settings × Chars)
  | [] => .ok (s, unit)
  | c :: rest =>
    let p := s.portion
    match c with
    | 'c' => letters { s with portion := { p with byLines := false } } [] rest
    | 'b' | 'k' | 'm' => letters { s with portion := { p with byLines := false } } [c] rest
    | 'l' => letters { s with portion := { p with byLines := true } } unit rest
    | 'q' => letters { s with titles := .never } unit rest
    | 'v' => letters { s with titles := .always } unit rest
    | 'z' => letters { s with portion := { p with separator := 0 } } unit rest
    | _ => .error (.usage ("invalid trailing option -- ".toList ++ [c]))

def leadingCount (arguments : List Chars) : Except Problem (Settings × List Chars) :=
  match arguments with
  | ('-' :: c :: more) :: rest =>
    if c.isDigit then
      let digits := (c :: more).takeWhile Char.isDigit
      match letters standard [] ((c :: more).drop digits.length) with
      | .error p => .error p
      | .ok (s, unit) => (setCount s s.portion.byLines false (digits ++ unit)).map fun s => (s, rest)
    else .ok (standard, arguments)
  | _ => .ok (standard, arguments)

def settings (arguments : List Chars) : Except Problem (Settings × List Chars) := do
  let (s, rest) ← leadingCount arguments
  let l := Given.readAll specs rest
  let s ← l.foldlM add s
  pure (s, orStandardInput (Given.operands l))

/-- Takes blocks from a pipe until the lines are complete. -/
def takeBlocks (p : Portion) : Nat → Bytes → Running Bytes
  | 0, acc => pure acc
  | fuel + 1, acc => do
    if p.count ≤ acc.countP (· == p.separator) then pure acc
    else
      match ← Running.read 0 (some blockSize) with
      | .bytes [] => pure acc
      | .bytes b => takeBlocks p fuel (acc ++ b)
      | _ => pure acc

def takeStandardInput (p : Portion) : Running Input := do
  match ← Running.channel? 0 with
  | some (_, .source rest) =>
    if p.fromEnd then standardInput
    else if p.byLines then return .content (← takeBlocks p (rest.length + 1) [])
    else
      let _ ← Running.read 0 (some p.count)
      pure (.content (rest.take p.count))
  | some (i, .file l offset mode) =>
    let rest := (((← get).files.content? l).getD []).drop offset
    if p.fromEnd || mode = .write || mode = .append || mode = .overwrite then standardInput
    else
      Running.setChannel i (.file l (offset + (p.cut rest).length) mode)
      pure (.content rest)
  | some (_, .device .zero) | some (_, .device .full) =>
    let n := if p.fromEnd || p.byLines then Running.endlessLimit else min p.count Running.endlessLimit
    pure (.content (List.replicate n 0))
  | _ => if p.count = 0 && !p.fromEnd then pure (.content []) else standardInput

def isStandardInput (path : Chars) : Running Bool := do
  match (← get).files.lookup path.toText, ← Running.channel? 0 with
  | .ok (.device (.stream 0)), some (_, .file ..) => pure false
  | .ok (.device (.stream 0)), some _ => pure true
  | _, _ => pure false

def one (name : Chars) (p : Portion) (titled first : Bool) (operand : Chars) : Running Nat := do
  let isStandard := operand == ['-']
  let title := if isStandard then "standard input".toList else operand
  match ← (if isStandard || (← isStandardInput operand) then takeStandardInput p else fileInput operand) with
  | .missing reason =>
    complain name ("cannot open ".toList ++ Quoting.name operand ++ " for reading: ".toList ++ reason.toList)
    pure 1
  | .content b =>
    let header := if titled then (if first then [] else ['\n']) ++ "==> ".toList ++ title ++ " <==\n".toList else []
    finish name (Chars.toBytes header ++ p.cut b) 0
  | .unreadable reason =>
    if titled then
      Running.writeChars 1 ((if first then [] else ['\n']) ++ "==> ".toList ++ title ++ " <==\n".toList)
    if p.count = 0 && !p.fromEnd then pure 0
    else
      complain name ("error reading ".toList ++ Quoting.name title ++ ": ".toList ++ reason.toList)
      pure 1

end Head

def head : Program := fun name arguments => do
  match Head.settings arguments with
  | .error (.count m) =>
    complain name m
    pure 1
  | .error (.usage m) => misused 1 name m
  | .error (.instead g) => (instead? Head.title 1 name [g]).getD (pure 0)
  | .ok (s, operands) =>
    let titled := match s.titles with
      | .always => true
      | .never => false
      | .several => 1 < operands.length
    let mut status := 0
    let mut first := true
    let mut closed := false
    for operand in operands do
      if operand == ['-'] && !(← isOpen 0) then closed := true
      let n ← Head.one name s.portion titled first operand
      status := max status n
      if operand == ['-'] || (← get).files.holds operand.toText then first := false
    if closed then complainText name ("-: " ++ badDescriptor)
    pure status

end ToolPipeline.Shell.Program
