import ToolPipeline.Text.Cut

set_option autoImplicit false

/-!
Paths as text. Everything here looks at the text only; what a path names is decided in `FileTree`.
-/

namespace ToolPipeline.Path

inductive Component where
  | root
  | here
  | up
  | name (s : List Char)
  deriving DecidableEq, Repr

/-- The texts between slashes with the positions at which they stop; `stop` is where `seg` begins. -/
def segments.go (start : Nat) (seg : List Char) : List Char → List (List Char × Nat)
  | [] => [(seg.reverse, start + seg.length)]
  | c :: s =>
    if c == '/' then (seg.reverse, start + seg.length) :: go (start + seg.length + 1) [] s
    else go start (c :: seg) s

def segments (p : List Char) : List (List Char × Nat) := segments.go 0 [] p

/-- The component that a segment stands for. Empty segments stand for none, and a dot only for
one where it opens a relative path. -/
def componentOf (first : Bool) (seg : List Char) : Option Component :=
  if seg.isEmpty then none
  else if seg == ['.'] then (if first then some .here else none)
  else if seg == ['.', '.'] then some .up
  else some (.name seg)

def located (p : List Char) : List (Component × Nat) :=
  match segments p with
  | [] => []
  | (seg, stop) :: rest =>
    let tail := rest.filterMap fun x => (componentOf false x.1).map fun c => (c, x.2)
    match p with
    | '/' :: _ => (.root, 1) :: tail
    | _ => ((componentOf true seg).map fun c => (c, stop)).toList ++ tail

def components (p : String) : List Component := (located p.toList).map (·.1)

def isAbsolute (p : String) : Bool :=
  match p.toList with
  | '/' :: _ => true
  | _ => false

/-- The path `p` as seen from the directory `base`: an absolute path stands for itself, any other is
put behind `base` with one slash between them. -/
def join (base p : String) : String :=
  if isAbsolute p || base.isEmpty then p
  else if base.toList.getLast? == some '/' then base ++ p
  else base ++ "/" ++ p

/-- The path without its last component, or `none` for a path that has nothing to drop. -/
def parent? (p : String) : Option String :=
  match (located p.toList).reverse with
  | [] | [(.root, _)] => none
  | _ :: rest =>
    match rest with
    | [] => some ""
    | (_, stop) :: _ => some (String.ofList (p.toList.take stop))

def ancestors (p : String) : List String :=
  match (located p.toList).reverse with
  | [] => [p]
  | (last, _) :: rest =>
    p :: rest.map (fun x => String.ofList (p.toList.take x.2)) ++
      (match (rest.getLast?.map (·.1)).getD last with
        | .root => []
        | _ => [""])

/-- The name of a last component without the part from its last dot on, and that part without the dot.
A name that opens with its only dot has no extension. -/
def extension? (p : String) : Option String :=
  match (located p.toList).reverse with
  | (.name s, _) :: _ =>
    match s.reverse.span (· != '.') with
    | (ext, _ :: _ :: _) => some (String.ofList ext.reverse)
    | _ => none
  | _ => none

end ToolPipeline.Path
