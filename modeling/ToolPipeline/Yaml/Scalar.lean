import ToolPipeline.Yaml.Source
import ToolPipeline.Yaml.Token

set_option autoImplicit false

/-!
Reading scalars: plain, quoted and block.

Each reader returns the text of the scalar and the source behind it.
-/

namespace ToolPipeline.Yaml

structure Gap where
  spaces : List Char
  broken : Bool
  first : List Char
  more : List Char
  deriving DecidableEq, Repr

namespace Gap

def empty : Gap := ⟨[], false, [], []⟩

/-- Spaces around a line break do not count. -/
def add (g : Gap) (c : Char) : Gap :=
  if isSpace c then (if g.broken then g else { g with spaces := g.spaces ++ [c] })
  else if g.broken then { g with more := g.more ++ [c] }
  else ⟨[], true, [c], []⟩

/-- What the gap is in the text: the spaces of a line, or the folded breaks. -/
def text (g : Gap) : List Char :=
  if !g.broken then g.spaces
  else if g.first == ['\n'] then (if g.more.isEmpty then [' '] else g.more)
  else g.first ++ g.more

end Gap

/-! Plain scalars. -/

/-- Where a plain scalar stands: in a flow collection or not, and the first column it may go on in. -/
structure PlainContext where
  inFlow : Bool
  margin : Nat
  deriving DecidableEq, Repr

def isFlowIndicator (c : Char) : Bool := c == ',' || c == '[' || c == ']' || c == '\x7b' || c == '\x7d'

def endsPlain (inFlow : Bool) (c next : Char) : Bool :=
  (c == ':' && isGap next) || (inFlow && isFlowIndicator c)

/-- Whether a word of a plain scalar cannot start here, so that the scalar ends before the gap. -/
def endsPlainAfterGap (ctx : PlainContext) (c : Cell) (s : Source) : Bool :=
  (!ctx.inFlow && c.column < ctx.margin) || Source.atDocumentMarker (c :: s) || c.char == '#'

/-- Goes on with a plain scalar; `text` is what was read, the last character first. The answer also tells
whether a line break stands behind the scalar. -/
def readPlain (ctx : PlainContext) (text : List Char) (inGap : Bool) (gap : Gap) :
    Source → Except Problem (String × Bool × Source)
  | [] => .ok (String.ofList text.reverse, gap.broken, [])
  | c :: s =>
    if isSpace c.char || isBreak c.char then
      if gap.broken && c.column < ctx.margin && c.char == '\t' then .error "tab in the indentation"
      else readPlain ctx text true (gap.add c.char) s
    else if isEnd c.char || (inGap && endsPlainAfterGap ctx c s) then
      .ok (String.ofList text.reverse, gap.broken, c :: s)
    else if ctx.inFlow && c.char == ':' && (isFlowIndicator (Source.peek s) || Source.peek s == '?') then
      .error "colon before an indicator"
    else if endsPlain ctx.inFlow c.char (Source.peek s) then
      .ok (String.ofList text.reverse, gap.broken, c :: s)
    else readPlain ctx (c.char :: (gap.text.reverse ++ text)) false .empty s

/-! Quoted scalars. -/

def escape? (c : Char) : Option Char :=
  match c with
  | '0' => some '\x00'
  | 'a' => some '\x07'
  | 'b' => some '\x08'
  | 't' => some '\t'
  | '\t' => some '\t'
  | 'n' => some '\n'
  | 'v' => some '\x0b'
  | 'f' => some '\x0c'
  | 'r' => some '\r'
  | 'e' => some '\x1b'
  | ' ' => some ' '
  | '"' => some '"'
  | '/' => some '/'
  | '\\' => some '\\'
  | 'N' => some '\u0085'
  | '_' => some '\u00a0'
  | 'L' => some '\u2028'
  | 'P' => some '\u2029'
  | _ => none

def escapeDigits? (c : Char) : Option Nat :=
  match c with
  | 'x' => some 2
  | 'u' => some 4
  | 'U' => some 8
  | _ => none

def hexValue? (c : Char) : Option Nat :=
  if '0' ≤ c && c ≤ '9' then some (c.toNat - 48)
  else if 'a' ≤ c && c ≤ 'f' then some (c.toNat - 87)
  else if 'A' ≤ c && c ≤ 'F' then some (c.toNat - 55)
  else none

def hexNumber? (value : Nat) : Nat → Source → Option Nat
  | 0, _ => some value
  | _ + 1, [] => none
  | n + 1, c :: s =>
    match hexValue? c.char with
    | some d => hexNumber? (value * 16 + d) n s
    | none => none

def readEscape (s : Source) : Except Problem (Char × Nat) :=
  match escape? s.peek with
  | some c => .ok (c, 1)
  | none =>
    match escapeDigits? s.peek with
    | none => .error "unknown escape"
    | some n =>
      match hexNumber? 0 n (s.drop 1) with
      | none => .error "escape without its digits"
      | some v => if v.isValidChar then .ok (Char.ofNat v, n + 1) else .error "escape of no character"

def readQuoted (quote : Char) (text : List Char) (gap : Gap) (skip : Nat) :
    Source → Except Problem (String × Source)
  | [] => .error "quote without its end"
  | c :: s =>
    if 0 < skip then readQuoted quote text gap (skip - 1) s
    else if isSpace c.char || isBreak c.char then readQuoted quote text (gap.add c.char) 0 s
    else
      let text := gap.text.reverse ++ text
      if Source.atDocumentMarker (c :: s) then .error "document marker in a quote"
      else if isEnd c.char then .error "quote without its end"
      else if c.char == quote then
        if quote == '\'' && Source.peek s == '\'' then readQuoted quote ('\'' :: text) .empty 1 s
        else .ok (String.ofList text.reverse, s)
      else if quote == '"' && c.char == '\\' then
        if isBreak (Source.peek s) then readQuoted quote text ⟨[], true, [], []⟩ 1 s
        else
          match readEscape s with
          | .ok (d, n) => readQuoted quote (d :: text) .empty n s
          | .error e => .error e
      else readQuoted quote (c.char :: text) .empty 0 s

/-! Block scalars. -/

inductive Chomping where
  | strip
  | clip
  | keep
  deriving DecidableEq, Repr

def chomping? (c : Char) : Option Chomping :=
  if c == '+' then some .keep else if c == '-' then some .strip else none

/-- Reads the indicators behind the opening of a block scalar, in either order. The number is zero when
the indentation is not given. -/
def readBlockHeader (s : Source) : Except Problem (Chomping × Nat × Source) :=
  match chomping? s.peek with
  | some m =>
    let s := s.drop 1
    if s.peek == '0' then .error "indentation of zero"
    else if s.peek.isDigit then .ok (m, s.peek.toNat - 48, s.drop 1)
    else .ok (m, 0, s)
  | none =>
    if s.peek == '0' then .error "indentation of zero"
    else if s.peek.isDigit then
      let n := s.peek.toNat - 48
      let s := s.drop 1
      match chomping? s.peek with
      | some m => .ok (m, n, s.drop 1)
      | none => .ok (.clip, n, s)
    else .ok (.clip, 0, s)

/-- Skips indentation and empty lines. The answer holds the line breaks, the greatest column reached and
the source from the next text on. An indentation of zero is not known yet. -/
def skipIndentation (indent deepest : Nat) (breaks : List Char) :
    Source → Except Problem (List Char × Nat × Source)
  | [] => .ok (breaks.reverse, deepest, [])
  | c :: s =>
    let outside := indent == 0 || c.column < indent
    if outside && c.char == ' ' then skipIndentation indent deepest breaks s
    else if outside && c.char == '\t' then .error "tab in the indentation"
    else
      let deepest := max deepest c.column
      if isBreak c.char then skipIndentation indent deepest (c.char :: breaks) s
      else .ok (breaks.reverse, deepest, c :: s)

structure BlockText where
  text : List Char
  leading : List Char
  trailing : List Char
  indented : Bool
  deriving DecidableEq, Repr

/-- Joins a further line. In a folded scalar a single break between lines without additional indentation
becomes a space. -/
def BlockText.addLine (b : BlockText) (literal : Bool) (line : List Char) : BlockText :=
  let indented := (line.head?.map isSpace).getD false
  let joint :=
    if !literal && b.leading == ['\n'] && !b.indented && !indented then
      (if b.trailing.isEmpty then [' '] else b.trailing)
    else b.leading ++ b.trailing
  ⟨line.reverse ++ (joint.reverse ++ b.text), [], [], indented⟩

def readBlockLines (literal : Bool) (indent : Nat) : Nat → BlockText → Source →
    Except Problem (BlockText × Source)
  | 0, b, s => .ok (b, s)
  | fuel + 1, b, s =>
    if s.column != indent || isEnd s.peek then .ok (b, s)
    else
      let (line, rest) := s.takeWhile fun c => !isBreakOrEnd c
      let leading := if isBreak rest.peek then [rest.peek] else []
      match skipIndentation indent 0 [] rest.dropBreak with
      | .error e => .error e
      | .ok (trailing, _, rest) =>
        readBlockLines literal indent fuel { b.addLine literal line with leading, trailing } rest

/-- Reads a block scalar behind its opening character. `margin` is the first column inside the
surrounding collection. -/
def readBlock (literal : Bool) (margin : Nat) (s : Source) : Except Problem (String × Source) := do
  let (chomping, given, s) ← readBlockHeader s
  let s ← s.endLine
  let indent := if given = 0 then 0 else margin - 1 + given
  let (breaks, deepest, s) ← skipIndentation indent 0 [] s
  let indent := if indent = 0 then max (max deepest margin) 1 else indent
  let (b, s) ← readBlockLines literal indent s.length ⟨[], [], breaks, false⟩ s
  let tail := match chomping with
    | .strip => []
    | .clip => b.leading
    | .keep => b.leading ++ b.trailing
  pure (String.ofList (b.text.reverse ++ tail), s)

end ToolPipeline.Yaml
