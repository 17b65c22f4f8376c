import ToolPipeline.Shell.Expansion

set_option autoImplicit false

/-!
Opening files for redirections. The targets of all redirections of a command are known before the first of them
is carried out.
-/

namespace ToolPipeline.Shell

inductive Opening where
  | file (descriptor : Nat) (mode : OpenMode) (path : Chars)
  | duplicate (descriptor : Nat) (source : Option Nat)
  | document (descriptor : Nat) (content : Word)
  deriving Repr

namespace Running

def openingProblem (creating : Bool) (e : FileError) : String :=
  if e = .missing || e = .notADirectory then
    if creating then "Directory nonexistent" else "No such file"
  else e.reason

def openFile (mode : OpenMode) (l : Location) : Running Nat := do
  let m ← get
  if mode = .write || mode = .overwrite || (m.files.content? l).isNone then
    set { m with files := m.files.put l (.file []) }
  addChannel (.file l 0 mode)

/-- The position of the channel for what a stream of this process leads to; a file is opened again. -/
def openStream (mode : OpenMode) (number : Nat) : Running (Option Nat) := do
  match ← channel? number with
  | none => pure none
  | some (_, .file l _ _) => return some (← openFile mode l)
  | some (i, _) => pure (some i)

def openForReading (path : Chars) : Running Nat := do
  let refuse (e : FileError) : Running Nat :=
    fail ("cannot open ".toList ++ path ++ ": ".toList ++ (openingProblem false e).toList)
  let files := (← get).files
  match files.locate path.toText with
  | .error e => refuse e
  | .ok l =>
    match files.entry? l with
    | some (.device (.stream n)) =>
      match ← openStream .read n with
      | some i => pure i
      | none => refuse .missing
    | some (.device d) => addChannel (.device d)
    | some .directory => addChannel (.directory l)
    | _ => openFile .read l

def openForWriting (mode : OpenMode) (path : Chars) : Running Nat := do
  let m ← get
  let refuse (e : FileError) : Running Nat :=
    fail ("cannot create ".toList ++ path ++ ": ".toList ++ (openingProblem true e).toList)
  let isGuarded := mode = .write && m.options.contains .noclobber
  if isGuarded && m.files.holdsFile path.toText then refuse .exists
  else
    match m.files.writable path.toText, m.files.lookup path.toText with
    | .error e, _ => refuse e
    | .ok (some l), _ => openFile mode l
    | .ok none, .ok (.device (.stream n)) =>
      match ← openStream mode n with
      | some i => pure i
      | none => refuse .missing
    | .ok none, .ok (.device d) => addChannel (.device d)
    | .ok none, _ => refuse .missing

def namedDescriptor (s : Chars) : Running (Option Nat) := do
  match s with
  | ['-'] => pure none
  | [c] => if c.isDigit then pure (some (c.toNat - 48)) else failText "Syntax error: Bad fd number"
  | _ => failText "Syntax error: Bad fd number"

def openingOf (run : Command → Running Bytes) : Redirection → Running Opening
  | .file descriptor mode target => do return .file descriptor mode (← wordText run .single target)
  | .duplicate descriptor target => do
    return .duplicate descriptor (← namedDescriptor (← wordText run .single target))
  | .document descriptor id => do
    return .document descriptor (((← get).documents.get? id).getD [])

def carryOut (run : Command → Running Bytes) : Opening → Running Unit
  | .file descriptor mode path => do
    connect descriptor (← if mode = .read then openForReading path else openForWriting mode path)
  | .duplicate descriptor none => disconnect descriptor
  | .duplicate descriptor (some source) => do
    if source ≠ descriptor then
      match (← get).descriptors.get? source with
      | some i => connect descriptor i
      | none => fail (Chars.ofNat source ++ ": Bad file descriptor".toList)
  | .document descriptor content => do
    let text ← wordText run .document content
    connect descriptor (← addChannel (.source text.toBytes))

def carryOutAll (run : Command → Running Bytes) (l : List Opening) : Running Bool :=
  tryCatch (do
    for o in l do carryOut run o
    pure true) fun
    | .error => pure false
    | h => throw h

end Running

end ToolPipeline.Shell
