import ToolPipeline.Session
import ToolPipeline.Storage.Reference

set_option autoImplicit false

/-!
Storage as the pipeline sees it, and parameter values that hold several references.
-/

namespace ToolPipeline

structure Storage (σ : Type) where
  read : (reference : String) → Action σ StorageError Bytes
  write : (reference : String) → Bytes → Action σ StorageError Unit
  holds : (reference : String) → Action σ StorageError Bool
  /-- Makes a reference usable below the working directory and tells the path to use. With `copy` the
  content is fetched, without it only the place is prepared. -/
  localize : (reference workingDir : String) → (copy : Bool) → Action σ StorageError String
  delocalize : (localPath reference workingDir : String) → Action σ StorageError Unit

namespace Storage

variable {σ : Type}

def localizeAll (storage : Storage σ) (separator workingDir : String) (copy : Bool) (value : String) :
    Action σ StorageError String := do
  let paths ← (Text.fragments separator value).mapM fun reference => storage.localize reference workingDir copy
  pure (separator.intercalate paths)

/-- Publishes the paths in `localized` under the references in `declared`, pair by pair. -/
def delocalizeAll (storage : Storage σ) (separator workingDir localized declared : String) :
    Action σ StorageError Unit := do
  let paths := Text.fragments separator localized
  let references := Text.fragments separator declared
  if paths.length ≠ references.length then throw (.invalidReference declared)
  else (paths.zip references).forM fun p => storage.delocalize p.1 p.2 workingDir

end Storage

end ToolPipeline
