import ToolPipeline.Storage.Basic

set_option autoImplicit false

/-!
Storage areas kept as directories: each scheme has a root, and a remote path is looked up below it.
-/

namespace ToolPipeline

/-- Schemes with the directories that hold their files. -/
abbrev StorageRoots := OrderedMap String String

namespace StorageRoots

variable {σ : Type}

def resolve (roots : StorageRoots) (reference : String) : Except StorageError String :=
  match Reference.parse reference with
  | .error e => .error e
  | .ok (.onMachine path) => .ok path
  | .ok (.remote scheme path) =>
    match roots.get? scheme with
    | some root => .ok (Path.join root path)
    | none => .error (.unknownScheme scheme reference)

def read (roots : StorageRoots) (reference : String) : Action σ StorageError Bytes := do
  let path ← liftExcept (roots.resolve reference)
  Action.lookAtFiles (.ofFileError reference) fun t => t.read path
where
  liftExcept {α : Type} (x : Except StorageError α) : Action σ StorageError α := ExceptT.mk (pure x)

def write (roots : StorageRoots) (reference : String) (b : Bytes) : Action σ StorageError Unit := do
  let path ← ExceptT.mk (pure (roots.resolve reference))
  Action.onFiles (.ofFileError reference) (FileTree.makeParent path)
  Action.onFiles (.ofFileError reference) (FileTree.write path b)

def holds (roots : StorageRoots) (reference : String) : Action σ StorageError Bool := do
  let path ← ExceptT.mk (pure (roots.resolve reference))
  pure ((← get).files.holds path)

/-- A remote file is localized below a directory named like its scheme. A file of this machine stays
where it is, and is only asked for when its content is wanted. -/
def localize (roots : StorageRoots) (reference workingDir : String) (copy : Bool) :
    Action σ StorageError String := do
  match ← ExceptT.mk (pure (Reference.parse reference)) with
  | .onMachine path =>
    if copy && !(← get).files.holds (Path.join workingDir path) then throw (.notFound reference)
    else pure path
  | .remote scheme path =>
    let source ← ExceptT.mk (pure (roots.resolve reference))
    let localPath := scheme ++ "/" ++ path
    let destination := Path.join workingDir localPath
    Action.onFiles (.ofFileError reference) (FileTree.makeParent destination)
    if copy then
      let _ ← Action.onFiles (.ofFileError reference) (FileTree.copy source destination)
    Action.report (.referenceLocalized reference localPath copy)
    pure localPath

/-- A file of this machine is published already; any other is copied below the root of its scheme. -/
def delocalize (roots : StorageRoots) (localPath reference workingDir : String) :
    Action σ StorageError Unit := do
  match ← ExceptT.mk (pure (Reference.parse reference)) with
  | .onMachine _ => pure ()
  | .remote .. =>
    let destination ← ExceptT.mk (pure (roots.resolve reference))
    Action.onFiles (.ofFileError reference) (FileTree.makeParent destination)
    let size ← Action.onFiles (.ofFileError localPath)
      (FileTree.copy (Path.join workingDir localPath) destination)
    Action.report (.referenceDelocalized localPath reference size)

def storage (roots : StorageRoots) : Storage σ where
  read := roots.read
  write := roots.write
  holds := roots.holds
  localize := roots.localize
  delocalize := roots.delocalize

end StorageRoots

end ToolPipeline
