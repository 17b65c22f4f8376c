import ToolPipeline.Archive.Zip
import ToolPipeline.FileTree.Operations
import ToolPipeline.Text.Blank
import ToolPipeline.Toml.Document

set_option autoImplicit false

/-!
The entry point that an archive declares, in one of two manifests.
-/

namespace ToolPipeline.Manifest

def attributesMember : String := "META-INF/MANIFEST.MF"

def settingsMember : String := "manifest.toml"

def mainClassAttribute : List Char := "Main-Class:".toList

def dropReturns (line : List Char) : List Char := (line.reverse.dropWhile (· == '\r')).reverse

/-- Joins lines that start with a space to the line before them. -/
def unfold : List (List Char) → List (List Char)
  | [] => []
  | line :: rest => go line rest
where
  go (line : List Char) : List (List Char) → List (List Char)
    | [] => [line]
    | (' ' :: more) :: rest => go (line ++ more) rest
    | next :: rest => line :: go next rest

def valueOf? (line : List Char) : Option String :=
  if mainClassAttribute.isPrefixOf line then
    let value := Text.trim (String.ofList (line.drop mainClassAttribute.length))
    if value.isEmpty then none else some value
  else none

def mainClass? (text : String) : Option String :=
  (unfold ((Text.lines text.toList).map dropReturns)).findSome? valueOf?

def entryPointSetting (text : String) : Except String (Option String) := do
  let name ← (← Toml.parse text).text? "entry_point"
  pure ((name.map Text.trim).filter fun s => !s.isEmpty)

def textMember (b : Bytes) (l : List Zip.Entry) (name : String) : Except Zip.Problem (Option String) := do
  match ← Zip.member? b l (Text.encode name) with
  | none => pure none
  | some content =>
    match Text.decode? content with
    | some s => pure (some s)
    | none => throw (.unreadable (name ++ ": stream did not contain valid UTF-8"))

/-- The entry point that an archive declares: its main class, or else the one among its settings. -/
def entryPointIn (b : Bytes) : Except Zip.Problem (Option String) := do
  let l ← Zip.entries b
  match (← textMember b l attributesMember).bind mainClass? with
  | some name => pure (some name)
  | none =>
    match ← textMember b l settingsMember with
    | some text => (entryPointSetting text).mapError .unreadable
    | none => pure none

def declared (files : FileTree) (path : String) : Except Zip.Problem (Option String) :=
  match files.read path with
  | .error e => .error (.unreadable e.message)
  | .ok b => entryPointIn b

end ToolPipeline.Manifest
