import ToolPipeline.FileTree.Basic
import ToolPipeline.Path

set_option autoImplicit false

/-!
From paths to locations. Every component but the last must name a directory, two dots lead to the
directory above, and lengths are bounded.
-/

namespace ToolPipeline.FileTree

def pathLimit : Nat := 4096

def nameLimit : Nat := 255

/-- The location one segment further; an empty segment or a dot stays. -/
def step (t : FileTree) (l : Location) (seg : List Char) : Except FileError Location :=
  if !t.isDirectoryAt l then .error .notADirectory
  else if seg.isEmpty || seg == ['.'] then .ok l
  else if seg == ['.', '.'] then .ok l.dropLast
  else if nameLimit < Text.byteLength seg then .error .nameTooLong
  else
    let next := l ++ [String.ofList seg]
    if (t.entry? next).isSome then .ok next else .error .missing

def walk (t : FileTree) (l : Location) : List (List Char) → Except FileError Location
  | [] => .ok l
  | seg :: rest =>
    match t.step l seg with
    | .ok next => t.walk next rest
    | .error e => .error e

def checkPath (p : String) : Except FileError Unit :=
  if p.toList.contains '\x00' then .error .nulInPath
  else if p.isEmpty then .error .missing
  else if pathLimit ≤ Text.byteLength p.toList then .error .nameTooLong
  else .ok ()

def start (t : FileTree) (p : String) : Location := if Path.isAbsolute p then [] else t.current

def segmentsOf (p : String) : List (List Char) := Text.split ['/'] p.toList

def locate (t : FileTree) (p : String) : Except FileError Location :=
  match checkPath p with
  | .error e => .error e
  | .ok () => t.walk (t.start p) (segmentsOf p)

/-- What the last segment of a path asks for, when the entry itself need not exist. -/
inductive Target where
  | existing (l : Location)
  /-- The name `name` in the directory `dir`, with or without slashes behind it. -/
  | child (dir : Location) (name : List Char) (slashes : Bool)
  deriving DecidableEq, Repr

def target (t : FileTree) (p : String) : Except FileError Target :=
  match checkPath p with
  | .error e => .error e
  | .ok () =>
    let segs := segmentsOf p
    let body := (segs.reverse.dropWhile List.isEmpty)
    let slashes := body.length < segs.length
    match body with
    | [] => .ok (.existing [])
    | last :: front =>
      match t.walk (t.start p) front.reverse with
      | .error e => .error e
      | .ok dir =>
        if !t.isDirectoryAt dir then .error .notADirectory
        else if last == ['.'] then .ok (.existing dir)
        else if last == ['.', '.'] then .ok (.existing dir.dropLast)
        else if nameLimit < Text.byteLength last then .error .nameTooLong
        else .ok (.child dir last slashes)

end ToolPipeline.FileTree
