import ToolPipeline.FileTree.Walk

set_option autoImplicit false

/-!
Reading, writing and copying files and creating directories.
A failing operation leaves every file as it was.
-/

namespace ToolPipeline

/-- A computation on a tree that may fail; what it did before failing stays. -/
abbrev FileAction := ExceptT FileError (StateM FileTree)

namespace FileTree

def lookup (t : FileTree) (p : String) : Except FileError Entry :=
  match t.locate p with
  | .error e => .error e
  | .ok l =>
    match t.entry? l with
    | some e => .ok e
    | none => .error .missing

def holds (t : FileTree) (p : String) : Bool := (t.lookup p).toOption.isSome

def holdsDirectory (t : FileTree) (p : String) : Bool := (t.lookup p).toOption == some .directory

def holdsFile (t : FileTree) (p : String) : Bool :=
  match t.lookup p with
  | .ok (.file _) => true
  | _ => false

/-- The whole content behind a path. The endless device counts as empty here. -/
def read (t : FileTree) (p : String) : Except FileError Bytes :=
  match t.lookup p with
  | .error e => .error e
  | .ok (.file b) => .ok b
  | .ok .directory => .error .isADirectory
  | .ok (.device _) => .ok []

def readText (t : FileTree) (p : String) : Except String String :=
  match t.read p with
  | .error e => .error e.message
  | .ok b =>
    match Text.decode? b with
    | some s => .ok s
    | none => .error "stream did not contain valid UTF-8"

/-- Where writing to a path ends up: a place for a file, or a device that swallows it. -/
def writable (t : FileTree) (p : String) : Except FileError (Option Location) :=
  match t.target p with
  | .error e => .error e
  | .ok (.existing _) => .error .isADirectory
  | .ok (.child dir name slashes) =>
    if slashes then .error .isADirectory
    else
      let l := dir ++ [String.ofList name]
      match t.entry? l with
      | some .directory => .error .isADirectory
      | some (.device _) => .ok none
      | some (.file _) | none => .ok (some l)

def write (p : String) (b : Bytes) : FileAction Unit := do
  let t ← get
  match t.writable p with
  | .error e => throw e
  | .ok none => pure ()
  | .ok (some l) => set (t.put l (.file b))

def makeDirectory (p : String) : FileAction Unit := do
  let t ← get
  match t.target p with
  | .error e => throw e
  | .ok (.existing _) => throw .exists
  | .ok (.child dir name _) =>
    let l := dir ++ [String.ofList name]
    if (t.entry? l).isSome then throw .exists else set (t.put l .directory)

/-- Creates the first of the paths, and before it the missing ones behind it in the list. -/
def makeFirst : List String → FileAction Unit
  | [] => throw .missing
  | p :: rest =>
    if p.isEmpty then pure ()
    else
      tryCatch (makeDirectory p) fun e => do
        if e = .missing then
          makeFirst rest
          tryCatch (makeDirectory p) fun e => do
            if (← get).holdsDirectory p then pure () else throw e
        else if (← get).holdsDirectory p then pure ()
        else throw e

def makeDirectories (p : String) : FileAction Unit := makeFirst (Path.ancestors p)

def makeParent (p : String) : FileAction Unit :=
  match Path.parent? p with
  | some dir => makeDirectories dir
  | none => pure ()

/-- Copies a regular file and tells its size. The destination is emptied before the source is read,
so a file copied onto itself is lost. -/
def copy (source destination : String) : FileAction Nat := do
  match (← get).lookup source with
  | .error e => throw e
  | .ok (.file _) =>
    write destination []
    match (← get).read source with
    | .error e => throw e
    | .ok b =>
      write destination b
      pure b.length
  | .ok _ => throw .notRegular

def remove (p : String) : StateM FileTree Bool := do
  let t ← get
  match t.locate p with
  | .error _ => pure false
  | .ok l =>
    set (t.removeAt l)
    pure true

end FileTree

end ToolPipeline
