import ToolPipeline.CommandLine

set_option autoImplicit false

/-!
The program. It reads the files below the current directory, runs the command line on them, and writes back
the files that are new or changed.
-/

namespace ToolPipeline.Main

/-- Directories nested more deeply than this are not looked into. -/
def depthLimit : Nat := 64

def gather : Nat → Location → List IO.FS.DirEntry → IO (List (Location × Entry))
  | 0, _, _ => pure []
  | fuel + 1, l, entries => do
    let found ← entries.mapM fun e => do
      let place := l ++ [e.fileName]
      if ← e.path.isDir then
        pure ((place, Entry.directory) :: (← gather fuel place (← e.path.readDir).toList))
      else
        pure [(place, Entry.file (← IO.FS.readBinFile e.path).toList)]
    pure found.flatten

def currentTree : IO FileTree := do
  let here ← IO.currentDir
  let base := here.components.filter fun s => !s.isEmpty && s != "/"
  let above := (List.range base.length).map fun n => (base.take (n + 1), Entry.directory)
  let below ← gather depthLimit base (← here.readDir).toList
  let devices := [(["dev"], .directory), (["dev", "null"], .device .null), (["dev", "zero"], .device .zero)]
  pure ⟨.ofList (devices ++ above ++ below), base⟩

def store (e : Location × Entry) : IO Unit := do
  let path := "/" ++ "/".intercalate e.1
  match e.2 with
  | .directory => IO.FS.createDirAll path
  | .file b => IO.FS.writeBinFile path ⟨b.toArray⟩
  | .device _ => pure ()

end ToolPipeline.Main

open ToolPipeline in
def main (arguments : List String) : IO UInt32 := do
  let files ← Main.currentTree
  let stdin ← if CommandLine.readsInput arguments then (← IO.getStdin).readBinToEnd else pure ByteArray.empty
  let (output, after) := (CommandLine.run arguments stdin.toList).run files
  for e in after.entries.toList do
    if files.entry? e.1 != some e.2 then Main.store e
  IO.print output.stdout
  IO.eprint output.errorText
  pure output.code.toUInt32
