import ToolPipeline.FileTree.Operations
import ToolPipeline.Shell.Chars

set_option autoImplicit false

/-!
Patterns for texts and paths. A star stands for any text, a question mark for any character and brackets for a
character out of a set; escaped characters stand for themselves.
-/

namespace ToolPipeline.Shell

inductive Glyph where
  | plain (c : Char)
  | literal (c : Char)
  /-- A quote, which is no character but makes a field. -/
  | mark
  deriving DecidableEq, Repr

namespace Glyph

def char? : Glyph → Option Char
  | plain c | literal c => some c
  | mark => none

def text (s : List Glyph) : Chars := s.filterMap char?

def ofChars (quoted : Bool) (s : Chars) : List Glyph := s.map fun c => if quoted then literal c else plain c

/-- The pattern as text, in which a backslash stands before what is literal. -/
def patternText (s : List Glyph) : Chars :=
  s.flatMap fun
    | plain c => [c]
    | literal c => ['\\', c]
    | mark => []

end Glyph

inductive NamedSet where
  | alnum | alpha | blank | cntrl | digit | graph | lower | print | punct | space | upper | xdigit
  deriving DecidableEq, Repr

namespace NamedSet

def all : List (String × NamedSet) :=
  [("alnum", alnum), ("alpha", alpha), ("blank", blank), ("cntrl", cntrl), ("digit", digit), ("graph", graph),
    ("lower", lower), ("print", print), ("punct", punct), ("space", space), ("upper", upper), ("xdigit", xdigit)]

def ofName? (name : Chars) : Option NamedSet := (all.find? fun p => p.1.toList == name).map (·.2)

def contains (s : NamedSet) (c : Char) : Bool :=
  let isGraph := 32 < c.toNat && c.toNat < 127
  match s with
  | alnum => c.isAlphanum
  | alpha => c.isAlpha
  | blank => c == ' ' || c == '\t'
  | cntrl => c.toNat < 32 || c.toNat == 127
  | digit => c.isDigit
  | graph => isGraph
  | lower => c.isLower
  | print => isGraph || c == ' '
  | punct => isGraph && !c.isAlphanum
  | space => Chars.isSpace c
  | upper => c.isUpper
  | xdigit => (Chars.digit? c).any fun d => d < 16

end NamedSet

inductive SetPart where
  | range (first last : Char)
  | named (s : NamedSet)
  deriving DecidableEq, Repr

namespace SetPart

/-- Bytes above 127 count as negative. -/
def order (c : Char) : Int := if c.toNat < 128 then c.toNat else (c.toNat : Int) - 256

def contains (p : SetPart) (c : Char) : Bool :=
  match p with
  | range first last => order first ≤ order c && order c ≤ order last
  | named s => s.contains c

end SetPart

inductive PatternItem where
  | one (c : Char)
  | any
  | many
  | set (negated : Bool) (parts : List SetPart)
  deriving DecidableEq, Repr

abbrev Pattern := List PatternItem

namespace Pattern

def namedSet? (s : Chars) : Option (NamedSet × Chars) :=
  match s with
  | ':' :: rest =>
    let name := rest.takeWhile Char.isLower
    match rest.drop name.length with
    | ':' :: ']' :: behind => (NamedSet.ofName? name).map fun set => (set, behind)
    | _ => none
  | _ => none

def setPart? (s : Chars) : Option (SetPart × Chars) :=
  let rangeFrom (c : Char) (s : Chars) : SetPart × Chars :=
    match s with
    | '-' :: '\\' :: d :: rest => (.range c d, rest)
    | '-' :: d :: rest => if d == ']' then (.range c c, s) else (.range c d, rest)
    | _ => (.range c c, s)
  match s with
  | [] => none
  | '[' :: rest =>
    match namedSet? rest with
    | some (set, behind) => some (.named set, behind)
    | none => some (rangeFrom '[' rest)
  | '\\' :: c :: rest => some (rangeFrom c rest)
  | c :: rest => some (rangeFrom c rest)

/-- Takes the parts of a set up to its closing bracket, which may stand first as a member. -/
def setParts? : Nat → List SetPart → Chars → Option (List SetPart × Chars)
  | 0, _, _ => none
  | fuel + 1, acc, s =>
    match setPart? s with
    | none => none
    | some (p, ']' :: rest) => some (acc ++ [p], rest)
    | some (p, rest) => setParts? fuel (acc ++ [p]) rest

def set? (s : Chars) : Option (PatternItem × Chars) :=
  match s with
  | '!' :: rest => (setParts? (s.length + 1) [] rest).map fun r => (.set true r.1, r.2)
  | _ => (setParts? (s.length + 1) [] s).map fun r => (.set false r.1, r.2)

def items : Nat → Chars → Pattern
  | 0, _ => []
  | fuel + 1, s =>
    match s with
    | [] => []
    | '\\' :: c :: rest => .one c :: items fuel rest
    | '*' :: rest => .many :: items fuel rest
    | '?' :: rest => .any :: items fuel rest
    | '[' :: rest =>
      match set? rest with
      | some (item, rest) => item :: items fuel rest
      | none => .one '[' :: items fuel rest
    | c :: rest => .one c :: items fuel rest

def ofText (s : Chars) : Pattern := items (s.length + 1) s

def ofGlyphs (s : List Glyph) : Pattern := ofText (Glyph.patternText s)

def anySuffix (p : Chars → Bool) : Chars → Bool
  | [] => p []
  | c :: s => p (c :: s) || anySuffix p s

def covers : Pattern → Chars → Bool
  | [], s => s.isEmpty
  | .many :: p, s => if p.isEmpty then true else anySuffix (covers p) s
  | .any :: p, _ :: s => covers p s
  | .one a :: p, c :: s => a == c && covers p s
  | .set negated parts :: p, c :: s => (parts.any fun x => x.contains c) != negated && covers p s
  | _ :: _, [] => false

def trim (p : Pattern) (front longest : Bool) (s : Chars) : Chars :=
  let sizes := List.range (s.length + 1)
  match (if longest then sizes.reverse else sizes).find? fun n =>
    covers p (if front then s.take n else s.drop (s.length - n)) with
  | some n => if front then s.drop n else s.take (s.length - n)
  | none => s

def closes : Chars → Bool
  | '\\' :: _ :: rest => rest.head? == some ']' || closes rest
  | _ :: rest => rest.head? == some ']' || closes rest
  | [] => false

def isSpecial : Chars → Bool
  | '\\' :: _ :: rest => isSpecial rest
  | '*' :: _ | '?' :: _ => true
  | '[' :: '!' :: rest => closes rest || isSpecial rest
  | '[' :: rest => closes rest || isSpecial rest
  | _ :: rest => isSpecial rest
  | [] => false

def unescape : Chars → Chars
  | '\\' :: c :: rest => c :: unescape rest
  | c :: rest => c :: unescape rest
  | [] => []

def segments (acc : Chars) : Chars → List Chars
  | [] => [acc.reverse]
  | '\\' :: c :: s => if c == '/' then acc.reverse :: segments [] s else segments (c :: '\\' :: acc) s
  | c :: s => if c == '/' then acc.reverse :: segments [] s else segments (c :: acc) s

def namesIn (files : FileTree) (directory : Chars) : List Chars :=
  match files.locate (if directory.isEmpty then "." else directory.toText) with
  | .error _ => []
  | .ok l =>
    if files.isDirectoryAt l then
      ['.'] :: ['.', '.'] :: (files.below l).filterMap fun e =>
        if e.1.length = 1 then e.1.head?.map Chars.ofString else none
    else []

/-- The paths behind one that is fixed. Hidden names must be asked for. -/
def pathsFrom (files : FileTree) (path : Chars) : List Chars → List Chars
  | [] => []
  | [segment] =>
    if isSpecial segment then (found files path segment).map fun n => path ++ n
    else
      let p := path ++ unescape segment
      if files.holds p.toText then [p] else []
  | segment :: rest =>
    if isSpecial segment then (found files path segment).flatMap fun n => pathsFrom files (path ++ n ++ ['/']) rest
    else pathsFrom files (path ++ unescape segment ++ ['/']) rest
where
  found (files : FileTree) (directory segment : Chars) : List Chars :=
    let hidden := (if segment.head? == some '\\' then segment[1]? else segment.head?) == some '.'
    (namesIn files directory).filter fun n => (hidden || n.head? != some '.') && covers (ofText segment) n

def paths (files : FileTree) (s : List Glyph) : List Chars :=
  let parts := segments [] (Glyph.patternText s)
  if parts.any isSpecial then (pathsFrom files [] parts).mergeSort Chars.lessOrEqual else []

end Pattern

end ToolPipeline.Shell
