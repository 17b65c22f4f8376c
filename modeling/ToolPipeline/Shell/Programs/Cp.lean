import ToolPipeline.Shell.Pattern
import ToolPipeline.Shell.Programs.CopySettings

set_option autoImplicit false

/-!
Copying files and directories.
-/

namespace ToolPipeline.Shell.Program

namespace Cp

structure Progress where
  pieces : List Chars
  sources : List Location
  results : List Location
  copied : List (Location × Chars)
  firstMade : Bool
  answers : Bytes
  /-- Whether answers were wanted that cannot be read. -/
  mute : Bool

abbrev Copying := StateT Progress Running

def refuse (name problem : Chars) : Copying Bool := do
  (complain name problem : Running Unit)
  pure false

def say (s : Chars) : Copying Unit := modify fun p => { p with pieces := s :: p.pieces }

def about (text : String) (path : Chars) : Chars := text.toList ++ Quoting.name path

def aboutReason (text : String) (path : Chars) (e : FileError) : Chars :=
  about text path ++ ": ".toList ++ e.reason.toList

def find (path : Chars) : Copying (Except FileError Entry) := do
  return (← (get : Running Machine)).files.lookup path.toText

def place? (path : Chars) : Copying (Option Location) := do
  match (← (get : Running Machine)).files.target path.toText with
  | .ok (.existing l) => pure (some l)
  | .ok (.child dir n _) => pure (some (dir ++ [String.ofList n]))
  | .error _ => pure none

def lastPart (path : Chars) : Chars :=
  let body := path.reverse.dropWhile (· == '/')
  (body.takeWhile (· != '/')).reverse

def stripSlashes (path : Chars) : Chars :=
  match path.reverse.dropWhile (· == '/') with
  | [] => path.take 1
  | body => body.reverse

def joinPaths (directory path : Chars) : Chars :=
  let d := stripSlashes directory
  if d.getLast? == some '/' || path.head? == some '/' then d ++ path else d ++ ['/'] ++ path

def isDots (s : Chars) : Bool := s == ['.'] || s == ['.', '.']

def answerBlock : Nat := 4096

def answerLine : Nat → Copying Bytes
  | 0 => pure []
  | fuel + 1 => do
    let buffered := (← get).answers
    let line := buffered.takeWhile (· != 10)
    if line.length < buffered.length then
      modify fun p => { p with answers := buffered.drop (line.length + 1) }
      pure line
    else
      match ← (Running.channel? 0 : Running _) with
      | some (i, .file l offset mode) =>
        let rest := (((← (get : Running Machine)).files.content? l).getD []).drop offset
        let line := rest.takeWhile (· != 10)
        (Running.setChannel i (.file l (offset + min rest.length (line.length + 1)) mode) : Running Unit)
        pure line
      | some (_, .source _) =>
        match ← (Running.read 0 (some answerBlock) : Running _) with
        | .bytes (b :: more) =>
          modify fun p => { p with answers := p.answers ++ b :: more }
          answerLine fuel
        | _ =>
          modify fun p => { p with answers := [] }
          pure buffered
      | some (_, .device _) => pure []
      | _ =>
        modify fun p => { p with mute := true }
        pure []

def confirmed (name destination : Chars) : Copying Bool := do
  (Running.writeChars 2 (name ++ ": overwrite ".toList ++ Quoting.name destination ++ "? ".toList) : Running Unit)
  let line ← answerLine 4096
  pure (line.head? == some 121 || line.head? == some 89)

def backupNumber? (file name : Chars) : Option Nat :=
  let front := file ++ ['.', '~']
  if front.isPrefixOf name && name.getLast? == some '~' then
    let digits := (name.drop front.length).dropLast
    if digits.isEmpty || !digits.all Char.isDigit then none else some (Chars.digits 10 0 digits).1
  else none

def backupPath (s : Settings) (destination : Chars) : Copying Chars := do
  let files := (← (get : Running Machine)).files
  let directory := destination.take (destination.length - (lastPart destination).length)
  let names := Pattern.namesIn files directory
  let used := names.filterMap (backupNumber? (lastPart destination))
  let isNumbered := match s.backup with
    | .numbered => true
    | .existing => !used.isEmpty
    | _ => false
  if isNumbered then
    pure (destination ++ ['.', '~'] ++ Chars.ofNat (used.foldl max 0 + 1) ++ ['~'])
  else pure (destination ++ s.suffix)

def moveFile (source destination : Location) : Copying Unit := do
  let m ← (get : Running Machine)
  match m.files.entry? source with
  | some e => (set { m with files := (m.files.removeAt source).put destination e } : Running Unit)
  | none => pure ()

def removeFile (l : Location) : Copying Unit := do
  let m ← (get : Running Machine)
  (set { m with files := m.files.removeAt l } : Running Unit)

def putFile (name destination : Chars) (b : Bytes) : Copying Bool := do
  let m ← (get : Running Machine)
  match (FileTree.write destination.toText b).run m.files with
  | (.ok (), files) =>
    (set { m with files } : Running Unit)
    match files.lookup destination.toText with
    | .ok (.device (.stream n)) => (Running.write n b : Running Bool)
    | _ => pure true
  | (.error e, _) =>
    let e := if e = .isADirectory && destination.getLast? == some '/' then .notADirectory else e
    refuse name (aboutReason "cannot create regular file " destination e)

def copyFile (s : Settings) (name source destination : Chars) (content : Bytes) (isNew : Bool) : Copying Bool := do
  let linked (kind : String) : Copying Bool := do
    if !isNew && !s.force then
      refuse name (about ("cannot create " ++ kind ++ " link ") destination ++ about " to " source ++
        ": File exists".toList)
    else putFile name destination content
  match s.linking with
  | .hard => linked "hard"
  | .symbolic =>
    let here := (← (get : Running Machine)).files.current
    let inPlace := (← place? destination).all fun l => l.dropLast = here
    if source.head? != some '/' && !inPlace then
      refuse name (Quoting.nameIfNeeded destination ++
        ": can make relative symbolic links only in current directory".toList)
    else linked "symbolic"
  | .none =>
    if s.withoutContent then (if isNew then putFile name destination [] else pure true)
    else putFile name destination content

inductive Verdict where
  | done (okay : Bool)
  /-- The copy goes on; there may be a kept file, and the old one may be gone. -/
  | proceed (isNew : Bool) (kept : Option Chars)

def judge (s : Settings) (name : Chars) (isArgument several : Bool) (source destination : Chars)
    (old new : Entry) (from_ target : Location) : Copying Verdict := do
  let isDirectory := old = .directory
  let ended (a : Copying Bool) : Copying Verdict := do return .done (← a)
  if s.replacing ≠ .never && from_ = target && s.linking = .hard then pure (.done true)
  else if s.replacing ≠ .never && from_ = target then
    ended (refuse name (Quoting.name source ++ " and ".toList ++ Quoting.name destination ++
      " are the same file".toList))
  else if s.onlyOlder && !isDirectory then pure (.done true)
  else if !isDirectory && s.replacing = .never then pure (.done true)
  else if ← (if !isDirectory && s.replacing = .asking then do return !(← confirmed name destination)
      else pure false) then pure (.done false)
  else if new ≠ .directory && isDirectory then
    ended (refuse name (about "cannot overwrite non-directory " destination ++ about " with directory " source))
  else if new ≠ .directory && isArgument && several && s.backup ≠ .numbered && (← get).results.contains target then
    ended (refuse name (about "will not overwrite just-created " destination ++ about " with " source))
  else if new = .directory && !isDirectory then
    ended (refuse name (about "cannot overwrite directory " destination ++ " with non-directory".toList))
  else if s.backup ≠ .none && !isDots (lastPart source) && new ≠ .directory then
    let path ← backupPath s destination
    match ← place? path with
    | none => pure (.proceed false none)
    | some l =>
      if l = from_ && s.backup ≠ .numbered then
        ended (refuse name (about "backing up " destination ++ " might destroy source;  ".toList ++
          Quoting.name source ++ " not copied".toList))
      else
        moveFile target l
        pure (.proceed true (some path))
  else if new ≠ .directory && s.removesFirst then
    removeFile target
    if s.verbose then say (about "removed " destination ++ ['\n'])
    pure (.proceed true none)
  else pure (.proceed false none)

def announce (s : Settings) (source destination : Chars) (kept : Option Chars) : Copying Unit := do
  if s.verbose then
    let backup := match kept with
      | some k => " (backup: ".toList ++ Quoting.name k ++ [')']
      | none => []
    say (Quoting.name source ++ " -> ".toList ++ Quoting.name destination ++ backup ++ ['\n'])

def remember (l : Location) (destination : Chars) : Copying Unit :=
  modify fun p => { p with copied := (l, destination) :: p.copied }

def copyEntry (s : Settings) (name : Chars) (several : Bool) (top : Chars × Chars) :
    Nat → (isArgument : Bool) → (source destination : Chars) → Copying Bool
  | 0, _, _, _ => pure false
  | fuel + 1, isArgument, source, destination => do
    let files := (← (get : Running Machine)).files
    match files.lookup source.toText, files.locate source.toText with
    | .error e, _ | _, .error e => refuse name (aboutReason "cannot stat " source e)
    | .ok old, .ok from_ =>
      let isDirectory := old = .directory
      if isDirectory && !s.recursive then
        return ← refuse name (about "-r not specified; omitting directory " source)
      if isArgument && several then
        if !isDirectory && s.backup = .none && (← get).sources.contains from_ then
          (complain name (about "warning: source file " source ++ " specified more than once".toList) : Running Unit)
          return true
        modify fun p => { p with sources := from_ :: p.sources }
      let verdict ← match files.lookup destination.toText, files.locate destination.toText with
        | .ok new, .ok target => judge s name isArgument several source destination old new from_ target
        | .error .missing, _ => pure (.proceed true none)
        | .error e, _ | _, .error e => do
          return ← refuse name (aboutReason "cannot stat " destination e)
      match verdict with
      | .done okay => pure okay
      | .proceed isNew kept =>
        let okay ← if isDirectory then do
            let earlier := (← get).copied.find? fun c => c.1 = from_
            if isArgument && earlier.isNone then remember from_ destination
            match earlier with
            | some (_, e) =>
              let e' ← place? e
              if (← place? source) = e' then
                refuse name (about "cannot copy a directory, " top.1 ++ about ", into itself, " top.2)
              else if (← place? destination) = e' then do
                (complain name (about "warning: source directory " top.1 ++ " specified more than once".toList) :
                  Running Unit)
                pure true
              else
                refuse name (about "will not create hard link " destination ++ about " to directory " e)
            | none =>
              let made ← if !isNew then pure true
                else do
                  let m ← (get : Running Machine)
                  match (FileTree.makeDirectory destination.toText).run m.files with
                  | (.error e, _) => refuse name (aboutReason "cannot create directory " destination e)
                  | (.ok (), files) =>
                    (set { m with files } : Running Unit)
                    if !(← get).firstMade then
                      match ← place? destination with
                      | some l => remember l destination
                      | none => pure ()
                      modify fun p => { p with firstMade := true }
                    announce s source destination none
                    pure true
              if !made then pure false
              else
                let names := Pattern.namesIn (← (get : Running Machine)).files source
                let results ← (names.filter fun n => !isDots n).mapM fun n =>
                  copyEntry s name several top fuel false (joinPaths source n) (joinPaths destination n)
                pure (results.all id)
          else do
            announce s source destination kept
            let content ← match old with
              | .file b => pure b
              | .device (.stream _) => do
                match ← (fileInput source : Running Input) with
                | .content b => pure b
                | _ => pure []
              | _ => pure []
            copyFile s name source destination content isNew
        if okay && isArgument then
          match ← place? destination with
          | some l => modify fun p => { p with results := l :: p.results }
          | none => pure ()
        pure okay

def copyArgument (s : Settings) (name : Chars) (several : Bool) (source destination : Chars) : Copying Bool := do
  modify fun p => { p with firstMade := false }
  let size := (← (get : Running Machine)).files.entries.toList.length
  copyEntry s name several (source, destination) (2 * size + 16) true source destination

def ancestors (path : Chars) : List Chars :=
  (List.range path.length).filterMap fun i =>
    if path[i]? == some '/' && 0 < i && path[i - 1]? != some '/' then some (path.take i) else none

def makeParents (s : Settings) (name : Chars) (target source : Chars) : Copying Bool := do
  let destination := joinPaths target source
  let parent := stripSlashes (destination.take (destination.length - (lastPart destination).length))
  match ← find parent with
  | .ok .directory => pure true
  | .ok _ => refuse name (Quoting.name parent ++ " exists but is not a directory".toList)
  | .error _ =>
    for part in ancestors (source.dropWhile (· == '/')) do
      let lead := if source.head? == some '/' then '/' :: part else part
      match ← find lead with
      | .error e => return ← refuse name (aboutReason "failed to get attributes of " lead e)
      | .ok .directory =>
        let copy := joinPaths target lead
        match ← find copy with
        | .ok .directory => pure ()
        | .ok _ => return ← refuse name (Quoting.name copy ++ " exists but is not a directory".toList)
        | .error _ =>
          let m ← (get : Running Machine)
          match (FileTree.makeDirectory copy.toText).run m.files with
          | (.error e, _) => return ← refuse name (aboutReason "cannot make directory " copy e)
          | (.ok (), files) =>
            (set { m with files } : Running Unit)
            if s.verbose then say (lead ++ " -> ".toList ++ copy ++ ['\n'])
      | .ok _ => return ← refuse name (aboutReason "failed to get attributes of " lead .notADirectory)
    pure true

def copyInto (s : Settings) (name target : Chars) (sources : List Chars) : Copying Bool := do
  let several := 2 ≤ sources.length
  let results ← sources.mapM fun source => do
    let source := if s.stripsSlashes then stripSlashes source else source
    if s.parents then
      let bare := stripSlashes source
      if ← makeParents s name target bare then copyArgument s name several source (joinPaths target bare)
      else pure false
    else
      let last := lastPart source
      let last := if last == ['.', '.'] then ['.'] else last
      copyArgument s name several source (joinPaths target last)
  pure (results.all id)

def targetProblem? (path : Chars) : Copying (Option FileError) := do
  match ← find path with
  | .ok .directory => pure none
  | .ok _ => pure (some .notADirectory)
  | .error e => pure (some e)

def copyTo (s : Settings) (name source destination : Chars) : Copying Bool := do
  if s.parents then
    (misused 1 name "with --parents, the destination must be a directory".toList : Running Nat) *> pure false
  else
    let isFile := match ← find destination with
      | .ok (.file _) => true
      | _ => false
    if s.force && s.backup ≠ .none && source == destination && isFile then
      copyArgument { s with backup := .none } name false source (← backupPath s destination)
    else copyArgument s name false source destination

def copyAll (s : Settings) (name : Chars) (operands : List Chars) : Copying Bool := do
  let usage (problem : Chars) : Copying Bool := do
    let _ ← (misused 1 name problem : Running Nat)
    pure false
  match operands with
  | [] => usage "missing file operand".toList
  | first :: rest =>
    match s.target with
    | some target =>
      if s.plainTarget then
        refuse name "cannot combine --target-directory (-t) and --no-target-directory (-T)".toList
      else
        match ← targetProblem? target with
        | some e => refuse name (aboutReason "target directory " target e)
        | none => copyInto s name target operands
    | none =>
      match rest.getLast? with
      | none => usage (about "missing destination file operand after " first)
      | some last =>
        if s.plainTarget then
          match rest with
          | _ :: extra :: _ => usage (about "extra operand " extra)
          | _ => copyTo s name first last
        else
          match ← targetProblem? last with
          | none => copyInto s name last operands.dropLast
          | some e =>
            if 2 < operands.length then refuse name (aboutReason "target " last e)
            else copyTo s name first last

end Cp

def cp : Program := fun name arguments => do
  let l := Given.readAll Cp.specs arguments
  for g in l do
    match g with
    | .option "n" _ =>
      complainText name
        "warning: behavior of -n is non-portable and may change in future; use --update=none instead"
    | _ => pure ()
  match l.foldlM Cp.add Cp.standard with
  | .error (.word w) => badWord 1 name w
  | .error .severalTargets =>
    complainText name "multiple target directories specified"
    pure 1
  | .error (.instead g) => (instead? Cp.title 1 name [g]).getD (pure 0)
  | .ok s =>
    let (okay, p) ← (Cp.copyAll s name (Given.operands l)).run ⟨[], [], [], [], false, [], false⟩
    let status ← finish name (Chars.toBytes p.pieces.reverse.flatten) (if okay then 0 else 1)
    if p.mute then
      complainText name ("error closing file: " ++ badDescriptor)
      pure 1
    else pure status

end ToolPipeline.Shell.Program
