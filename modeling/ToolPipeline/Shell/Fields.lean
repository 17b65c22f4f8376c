import ToolPipeline.Shell.Pattern

set_option autoImplicit false

/-!
Cutting expanded words into fields. Separators are looked for in the segments that come out of expansions;
quotes make a field even where they enclose nothing.
-/

namespace ToolPipeline.Shell

inductive Splitting where
  | never
  | atZeros
  | atSeparators
  deriving DecidableEq, Repr

structure Segment where
  glyphs : List Glyph
  splitting : Splitting
  deriving DecidableEq, Repr

/-- Words that are being cut. Fields and their characters come in reverse order. -/
structure Splitter where
  fields : List (List Glyph)
  current : List Glyph
  spaced : Bool
  zeros : Bool
  /-- The number of fields that are still wanted. The last one takes all that is left. -/
  wanted : Option Nat
  /-- The characters of the last field that are kept if nothing else follows. -/
  kept : Option Nat
  deriving DecidableEq, Repr

namespace Splitter

def start (wanted : Option Nat) : Splitter := ⟨[], [], false, false, wanted, none⟩

def isBlank (c : Char) : Bool := c == ' ' || c == '\t' || c == '\n' || c == '\x00'

def push (s : Splitter) (g : Glyph) : Splitter := { s with current := g :: s.current }

/-- Looks at a character in which fields may be separated; `afterZeros` tells what came before its segment. -/
def step (separators : Chars) (afterZeros : Bool) (s : Splitter) (g : Glyph) : Splitter :=
  match g.char? with
  | none => s.push g
  | some c =>
    let separates := c == '\x00' || (!s.zeros && separators.contains c)
    let isBlank := separates && isBlank c
    if s.wanted = some 0 then
      let t := s.push g
      if isBlank then { t with kept := t.kept.orElse fun _ => some s.current.length }
      else { t with kept := if separates && s.spaced then t.kept else none, spaced := false }
    else if s.spaced then
      let t := { s with current := if separates then [] else [g], spaced := isBlank }
      t
    else if !separates then s.push g
    else
      let spaced := if afterZeros || s.zeros then s.spaced else isBlank
      if s.current.isEmpty && spaced then { s with spaced := false }
      else
        match s.wanted with
        | some 1 => { s.push g with spaced, wanted := some 0, kept := some s.current.length }
        | wanted => { s with
            fields := s.current.reverse :: s.fields
            current := []
            spaced
            wanted := wanted.map (· - 1) }

def add (separators : Chars) (s : Splitter) (x : Segment) : Splitter :=
  match x.splitting with
  | .never => { s with current := x.glyphs.reverse ++ s.current }
  | splitting =>
    let t := { s with spaced := false, zeros := splitting == .atZeros }
    x.glyphs.foldl (step separators s.zeros) t

def finish (s : Splitter) : List (List Glyph) :=
  let last := match s.kept with
    | some n => s.current.reverse.take n
    | none => s.current.reverse
  if s.zeros || !s.current.isEmpty then (last :: s.fields).reverse else s.fields.reverse

end Splitter

namespace Segment

def split (separators : Chars) (wanted : Option Nat) (word : List Segment) : List (List Glyph) :=
  (word.foldl (Splitter.add separators) (.start wanted)).finish

def text (word : List Segment) : Chars := Glyph.text (word.flatMap (·.glyphs))

def pattern (word : List Segment) : Pattern := .ofGlyphs (word.flatMap (·.glyphs))

def resolve (files : FileTree) (expandsPaths : Bool) (field : List Glyph) : List Chars :=
  let found := if expandsPaths then Pattern.paths files field else []
  if found.isEmpty then [Glyph.text field] else found

end Segment

end ToolPipeline.Shell
