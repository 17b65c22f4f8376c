import ToolPipeline.ControlLine.Error

set_option autoImplicit false

/-!
Reading a control line token by token, with one token of push-back.
-/

namespace ToolPipeline.ControlLine

structure Cursor where
  line : List Char
  rest : List Char
  consumed : Nat
  current : Token
  pushedBack : Bool
  deriving DecidableEq, Repr

namespace Cursor

/-- At the start of a line no token has been delivered yet; the end of input stands in for it. -/
def ofLine (line : String) : Cursor := ⟨line.toList, line.toList, 0, .endOfInput, false⟩

def offset (c : Cursor) : Nat := Text.byteLength c.line - Text.byteLength c.rest

def position (c : Cursor) : Nat := if c.pushedBack then c.consumed - 1 else c.consumed

/-- Makes the next reading deliver the current token again. -/
def pushBack (c : Cursor) : Cursor := { c with pushedBack := true }

def deliver (c : Cursor) (t : Token) (rest : List Char) : Cursor :=
  { c with rest := rest, consumed := c.consumed + 1, current := t }

/-- Reads the next token. A reading that fails has still passed the blanks before the open quote. -/
def next (c : Cursor) : Except SyntaxError Token × Cursor :=
  if c.pushedBack then (.ok c.current, { c with pushedBack := false })
  else
    let d := { c with rest := Text.dropBlanks c.rest }
    match scan d.rest with
    | .nothing => (.ok .endOfInput, d.deliver .endOfInput [])
    | .token t rest => (.ok t, d.deliver t rest)
    | .unclosed quote => (.error (.unterminatedQuote d.offset quote), d)

end Cursor

end ToolPipeline.ControlLine
