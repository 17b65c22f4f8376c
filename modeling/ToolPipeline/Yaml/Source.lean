set_option autoImplicit false

/-!
The text of a document with the place of each character.

Every kind of line break counts as one character: carriage return, line feed, both together and the
next-line character become a line feed, while the line and paragraph separators stay what they are.
-/

namespace ToolPipeline.Yaml

/-- A character, and the line and column where it stands; `index` bytes stand before it. -/
structure Cell where
  char : Char
  line : Nat
  column : Nat
  index : Nat
  deriving DecidableEq, Repr

/-- What is left of a text. The last cell holds the zero character, which stands for the end and occurs
nowhere else. -/
abbrev Source := List Cell

abbrev Problem := String

def isPrintable (c : Char) : Bool :=
  let n := c.toNat
  n == 9 || n == 10 || n == 13 || (0x20 ≤ n && n ≤ 0x7E) || n == 0x85 || (0xA0 ≤ n && n ≤ 0xD7FF) ||
    (0xE000 ≤ n && n ≤ 0xFFFD) || 0x10000 ≤ n

def isSeparator (c : Char) : Bool := c == '\u2028' || c == '\u2029'

def isBreak (c : Char) : Bool := c == '\n' || isSeparator c

def isSpace (c : Char) : Bool := c == ' ' || c == '\t'

def isEnd (c : Char) : Bool := c == '\x00'

def isBreakOrEnd (c : Char) : Bool := isBreak c || isEnd c

def isGap (c : Char) : Bool := isSpace c || isBreakOrEnd c

def isNameChar (c : Char) : Bool := c.isAlphanum || c == '_' || c == '-'

def cells (line column index : Nat) : List Char → Source
  | [] => [⟨'\x00', line, column, index⟩]
  | '\r' :: '\n' :: s => ⟨'\n', line, column, index⟩ :: cells (line + 1) 0 (index + 2) s
  | c :: s =>
    let next := index + c.utf8Size
    if c == '\r' || c == '\n' || c == '\u0085' then
      ⟨'\n', line, column, index⟩ :: cells (line + 1) 0 next s
    else if isSeparator c then ⟨c, line, column, index⟩ :: cells (line + 1) 0 next s
    else ⟨c, line, column, index⟩ :: cells line (column + 1) next s

def Source.ofText (s : String) : Except Problem Source :=
  if s.toList.all isPrintable then .ok (cells 0 0 0 s.toList) else .error "control character"

namespace Source

def peek : Source → Char
  | c :: _ => c.char
  | [] => '\x00'

def drop (n : Nat) (s : Source) : Source := List.drop n s

def peekAt (s : Source) (n : Nat) : Char := peek (s.drop n)

def column : Source → Nat
  | c :: _ => c.column
  | [] => 0

def takeWhile (p : Char → Bool) (s : Source) : List Char × Source :=
  ((List.takeWhile (fun c => p c.char) s).map Cell.char, List.dropWhile (fun c => p c.char) s)

def dropWhile (p : Char → Bool) (s : Source) : Source := List.dropWhile (fun c => p c.char) s

def startsWithMarker (c : Char) (s : Source) : Bool :=
  peek s == c && s.peekAt 1 == c && s.peekAt 2 == c && isGap (s.peekAt 3)

/-- Whether a document marker stands here, which it does at the start of a line only. -/
def atDocumentMarker (s : Source) : Bool :=
  s.column == 0 && (s.startsWithMarker '-' || s.startsWithMarker '.')

def dropBreak : Source → Source
  | c :: s => if isBreak c.char then s else c :: s
  | [] => []

def endLine (s : Source) : Except Problem Source :=
  let s := s.dropWhile isSpace
  let s := if s.peek == '#' then s.dropWhile (fun c => !isBreakOrEnd c) else s
  if isBreakOrEnd s.peek then .ok s.dropBreak else .error "text after the end of a line was expected"

end Source

end ToolPipeline.Yaml
