import ToolPipeline.Setup

set_option autoImplicit false

/-!
The command line: a configuration, and control lines from its argument or from the standard input.
-/

namespace ToolPipeline

structure ProgramOutput where
  code : Nat
  stdout : String
  stderr : String
  cause : Option String
  deriving DecidableEq, Repr

def ProgramOutput.errorText (o : ProgramOutput) : String :=
  match o.cause with
  | some cause => o.stderr ++ "\n\nCaused by:\n    " ++ cause ++ "\n"
  | none => o.stderr

namespace CommandLine

def readsInput (arguments : List String) : Bool := arguments.length == 1

def usage : String :=
  "Usage: pipewrap <config.yaml> [control line]\n" ++
  "       pipewrap <config.yaml> < control-lines.txt\n" ++
  "Example: pipewrap pipewrap.yaml 'in.txt > text upper | text count'\n"

def misuse (problem : String) : ProgramOutput := ⟨2, "", problem, none⟩

def failure (problem cause : String) : ProgramOutput := ⟨1, "", "Error: " ++ problem, some cause⟩

/-- The control lines in a text: blank lines and comments are left out. -/
def controlLines (text : String) : List String :=
  ((Text.lines text.toList).map fun l => Text.trim (String.ofList l)).filter fun l =>
    !l.isEmpty && l.toList.head? != some '#'

def ended (s : String) : String := if s.toList.getLast? == some '\n' then s else s ++ "\n"

def report (line output : String) : String := line ++ "\t" ++ Text.trimEnd output ++ "\n"

def runLine (w : Wrapper Catalog) (line : String) : StateM (Session Catalog) ProgramOutput := do
  match ← (w.wrap line).run with
  | .ok output => pure ⟨0, ended output, "", none⟩
  | .error (.error e) => pure ⟨1, "", e.message ++ "\n", none⟩
  | .error (.crash message) => pure ⟨101, "", message ++ "\n", none⟩

def runLines (w : Wrapper Catalog) (stdin : Bytes) : StateM (Session Catalog) ProgramOutput := do
  match Text.decode? stdin with
  | none => pure (failure "failed to read control lines from stdin" "stream did not contain valid UTF-8")
  | some text =>
    let lines := controlLines text
    match ← (w.wrapAll lines).run with
    | .error (.error e) => pure ⟨1, "", e.message ++ "\n", none⟩
    | .error (.crash message) => pure ⟨101, "", message ++ "\n", none⟩
    | .ok results =>
      let reports := (lines.zip results).filterMap fun p => p.2.toOption.map (report p.1)
      let failed := results.any fun r => r.toOption.isNone
      pure ⟨if failed then 1 else 0, String.join reports, "", none⟩

def run (arguments : List String) (stdin : Bytes) : StateM FileTree ProgramOutput := do
  match arguments with
  | [] => pure (misuse usage)
  | path :: rest =>
    match ← (Config.loadAndValidate path).run with
    | .error e => pure (failure s!"failed to load configuration '{path}'" e.message)
    | .ok config =>
      let start (a : StateM (Session Catalog) ProgramOutput) : StateM FileTree ProgramOutput := fun files =>
        let (output, s) := a.run ⟨files, [], ∅⟩
        (output, s.files)
      match rest with
      | [] => start (runLines config.wrapper stdin)
      | [line] => start (runLine config.wrapper line)
      | _ =>
        pure (misuse
          s!"expected the control line as a single quoted argument, got {rest.length} arguments\n")

end CommandLine

end ToolPipeline
