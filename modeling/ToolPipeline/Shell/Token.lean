import ToolPipeline.Shell.Chars

set_option autoImplicit false

/-!
The tokens of a script, and why a script cannot be read.
-/

namespace ToolPipeline.Shell

inductive Token where
  | endOfText
  | newline
  | semicolon
  | ampersand
  | both
  | either
  | bar
  | opening
  | closing
  | endOfBranch
  | redirection
  | word
  | keyword (name : Chars)
  deriving DecidableEq, Repr

namespace Token

def keywords : List String :=
  ["!", "case", "do", "done", "elif", "else", "esac", "fi", "for", "if", "in", "then", "until", "while", "\x7b",
    "\x7d"]

def ofWord? (s : Chars) : Option Token :=
  if keywords.any fun k => k.toList == s then some (keyword s) else none

def describe : Token → String
  | endOfText => "end of file"
  | newline => "newline"
  | semicolon => "\";\""
  | ampersand => "\"&\""
  | both => "\"&&\""
  | either => "\"||\""
  | bar => "\"|\""
  | opening => "\"(\""
  | closing => "\")\""
  | endOfBranch => "\";;\""
  | redirection => "redirection"
  | word => "word"
  | keyword name => "\"" ++ String.ofList name ++ "\""

def endsList (t : Token) : Bool :=
  match t with
  | endOfText | closing | endOfBranch => true
  | keyword name =>
    ["do", "done", "elif", "else", "esac", "fi", "then", "\x7d"].any fun k => k.toList == name
  | _ => false

end Token

/-- The commands of the shell that end it when they fail. No function can have their names. -/
def specialCommands : List String :=
  [".", ":", "break", "continue", "eval", "exec", "exit", "export", "local", "readonly", "return", "set", "shift",
    "times", "trap", "unset"]

inductive ScriptProblem where
  | openQuote
  | openBrace
  | openArithmetic
  | openBackQuote
  | badLoopVariable
  | badFunctionName
  | unexpected (token : Token) (expected : Option Token)
  deriving DecidableEq, Repr

def ScriptProblem.message : ScriptProblem → String
  | openQuote => "Syntax error: Unterminated quoted string"
  | openBrace => "Syntax error: Missing '\x7d'"
  | openArithmetic => "Syntax error: Missing '))'"
  | openBackQuote => "Syntax error: EOF in backquote substitution"
  | badLoopVariable => "Syntax error: Bad for loop variable"
  | badFunctionName => "Syntax error: Bad function name"
  | unexpected token none => s!"Syntax error: {token.describe} unexpected"
  | unexpected token (some t) => s!"Syntax error: {token.describe} unexpected (expecting {t.describe})"

end ToolPipeline.Shell
