import ToolPipeline.ControlLine.Token

set_option autoImplicit false

/-!
Why a control line is refused.
-/

namespace ToolPipeline.ControlLine

inductive Expectation where
  | stdinOrTool
  | toolAfterRedirect
  | toolAfterPipe
  | action
  | parameterName
  | equalsSign
  | parameterValue
  | stdoutFile
  | continuation
  deriving DecidableEq, Repr

def Expectation.text : Expectation → String
  | stdinOrTool => "a stdin file or tool name"
  | toolAfterRedirect => "a tool name after '>'"
  | toolAfterPipe => "a tool name after '|'"
  | action => "an action name after the tool name"
  | parameterName => "a parameter name after '-'"
  | equalsSign => "'=' after the parameter name"
  | parameterValue => "a parameter value after '='"
  | stdoutFile => "a stdout file after '>'"
  | continuation => "'-', '|', '>' or end of input"

inductive SyntaxError where
  /-- The token at a place, counted from one, is none that the grammar allows there. -/
  | unexpectedToken (position : Nat) (expected : Expectation) (found : Token)
  /-- A quoted literal opens behind `offset` bytes and is closed nowhere. -/
  | unterminatedQuote (offset : Nat) (quote : Char)
  deriving DecidableEq, Repr

def SyntaxError.message : SyntaxError → String
  | unexpectedToken position expected found =>
    s!"syntax error at token {position}: expected " ++ expected.text ++ ", found " ++ found.display
  | unterminatedQuote offset quote => s!"syntax error at offset {offset}: unterminated {quote} quote"

end ToolPipeline.ControlLine
