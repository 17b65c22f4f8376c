import ToolPipeline.Archive.Manifest
import ToolPipeline.Arguments
import ToolPipeline.Failure
import ToolPipeline.InProcess.Program

set_option autoImplicit false

/-!
Finding the entry point in a command line.

The tokens are tried from the last to the first. The one that names an entry point wins, and the tokens
behind it are its arguments. An archive names the entry point that it declares.
-/

namespace ToolPipeline

structure ResolvedEntryPoint where
  name : String
  token : String
  entryPoint : EntryPoint
  arguments : List String

namespace EntryPointSearch

def archiveExtensions : List String := ["jar", "zip"]

def isArchive (token : String) : Bool :=
  match Path.extension? token with
  | some e => archiveExtensions.contains (String.ofList (e.toList.map Char.toLower))
  | none => false

/-- What reading the manifest of a token gives: nothing for tokens that are no archives. -/
def declared (files : FileTree) (workingDir token : String) : Except Zip.Problem (Option String) :=
  if isArchive token then Manifest.declared files (Path.join workingDir token) else .ok none

/-- What breaks a search down: a member that needs a password is read without one. -/
def lockedMessage : String := "called `Result::unwrap()` on an `Err` value: InvalidPassword"

def find? (lookup : String → Option EntryPoint) (names : List String) : Option (String × EntryPoint) :=
  names.findSome? fun name => (lookup name).map fun e => (name, e)

/-- Tries the tokens in `before`, the last of them first; `after` are the tokens behind them. -/
def search {σ : Type} (workingDir commandLine : String) (lookup : String → Option EntryPoint)
    (after : List String) : (before : List String) → Action σ (Stop ResolutionError) ResolvedEntryPoint
  | [] => throw (.error (.entryPointNotFound commandLine))
  | token :: before => do
    let files := (← get).files
    let names ←
      match declared files workingDir token with
      | .ok name => pure (name.toList ++ [token])
      | .error .locked => throw (.crash lockedMessage)
      | .error (.unreadable reason) => do
        let e := ResolutionError.archiveUnreadable (Path.join workingDir token) reason
        Action.report (.archiveSkipped token e.message)
        pure [token]
    match find? lookup names with
    | some (name, e) =>
      Action.report (.entryPointResolved name token after.length)
      pure ⟨name, token, e, after⟩
    | none => search workingDir commandLine lookup (token :: after) before

end EntryPointSearch

def resolveEntryPoint {σ : Type} (lookup : String → Option EntryPoint) (workingDir commandLine : String) :
    Action σ (Stop ResolutionError) ResolvedEntryPoint :=
  EntryPointSearch.search workingDir commandLine lookup [] (Arguments.split commandLine).reverse

end ToolPipeline
