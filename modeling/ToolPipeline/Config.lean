import ToolPipeline.Storage.Directories
import ToolPipeline.Yaml.Decode

set_option autoImplicit false

/-!
The configuration of a wrapper: where its tools, its working directory and its storage areas are.
-/

namespace ToolPipeline

structure Config where
  repository : String
  workingDir : Option String
  roots : StorageRoots
  logLevel : Option String
  separator : Option String
  deriving DecidableEq, Repr

inductive ConfigError where
  | unreadable (path reason : String)
  | malformed (path reason : String)
  | invalid (reasons : List String)
  deriving DecidableEq, Repr

def ConfigError.message : ConfigError → String
  | unreadable path reason => s!"failed to read configuration '{path}': {reason}"
  | malformed path reason => s!"invalid configuration '{path}': {reason}"
  | invalid reasons => "configuration validation failed: " ++ "; ".intercalate reasons

namespace Config

def effectiveWorkingDir (c : Config) : String := c.workingDir.getD "."

def effectiveSeparator (c : Config) : String := c.separator.getD " "

open Yaml (Decoder Node) in
def storageRoots (n : Node) : Decoder StorageRoots := do
  let fields ← Decoder.record ["remotes"] n
  Decoder.fieldOr fields "remotes" ∅ Decoder.textMap

open Yaml (Decoder Node) in
def ofNode (n : Node) : Decoder Config := do
  let fields ← Decoder.record ["repository", "working_dir", "storage", "log_level", "separator"] n
  let optionalText (name : String) := Decoder.fieldOr fields name none (Decoder.optional Decoder.text)
  pure {
    repository := ← Decoder.field fields "repository" Decoder.text
    workingDir := ← optionalText "working_dir"
    roots := ← Decoder.fieldOr fields "storage" ∅ storageRoots
    logLevel := ← optionalText "log_level"
    separator := ← optionalText "separator" }

def load (files : FileTree) (path : String) : Except ConfigError Config :=
  match files.readText path with
  | .error reason => .error (.unreadable path reason)
  | .ok text =>
    match Yaml.Document.ofText text >>= (Yaml.Document.decode · ofNode) with
    | .error reason => .error (.malformed path reason)
    | .ok c => .ok c

def rebase (c : Config) (base : String) : Config :=
  { c with
    repository := Path.join base c.repository
    workingDir := c.workingDir.map (Path.join base)
    roots := ⟨c.roots.toList.map fun e => (e.1, Path.join base e.2)⟩ }

def isScheme (s : String) : Bool :=
  !s.isEmpty && s != "file" && s.toList.all fun c => c.isAlphanum

/-- What is wrong with a configuration, apart from its working directory. -/
def problems (c : Config) (files : FileTree) : List String :=
  (if files.holdsDirectory c.repository then []
    else [s!"tool repository '{c.repository}' is not a directory"]) ++
  (if c.effectiveSeparator.isEmpty then ["separator must not be empty"] else []) ++
  (c.roots.keys.filter fun s => !isScheme s).map fun s => s!"invalid storage scheme '{s}'"

/-- Loads a configuration whose paths start from the directory of its file, creates its working
directory, and tells everything that is wrong with it in alphabetical order. -/
def loadAndValidate (path : String) : ExceptT ConfigError (StateM FileTree) Config := do
  let files ← get
  let c ← ExceptT.mk (pure (load files path))
  let c := match Path.parent? path with
    | some base => c.rebase base
    | none => c
  let problems := c.problems files
  let (made, files) := (FileTree.makeDirectories c.effectiveWorkingDir).run.run files
  set files
  let problems := match made with
    | .ok () => problems
    | .error e =>
      problems ++ [s!"cannot create working directory '{c.effectiveWorkingDir}': " ++ e.message]
  if problems.isEmpty then pure c else throw (.invalid (problems.mergeSort (· ≤ ·)))

end Config

end ToolPipeline
