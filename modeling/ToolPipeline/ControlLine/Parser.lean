import ToolPipeline.ControlLine.Reading
import ToolPipeline.OrderedMap

set_option autoImplicit false

/-!
From a control line to the pipeline it describes.

    line    = literal '>' tail | tail
    tail    = command ('|' command)* ('>' literal)?
    command = literal literal ('-' literal '=' literal)*

Tool and action names are not empty and parameter names are bare words. Only the token behind the first
literal is read ahead: unless it is a redirection it is pushed back, and the literal was the first tool.
-/

namespace ToolPipeline.ControlLine

structure Command where
  tool : String
  action : String
  pairs : ParameterMap
  deriving DecidableEq, Repr

/-- What a control line asks for. A file named by the empty text is none. -/
structure Pipeline where
  stdin : Option String
  stdout : Option String
  commands : List Command
  deriving DecidableEq, Repr

def fileName (s : String) : Option String := if s.isEmpty then none else some s

namespace Reading

def key : Reading String := do
  match ← token with
  | .literal text false => if text.isEmpty then refuse .parameterName else pure text
  | _ => refuse .parameterName

def equalsSign : Reading Unit := do
  if (← token) = .equals then pure () else refuse .equalsSign

/-- Reads a parameter behind its dash. The value is current in the end. -/
def pair : Reading (String × String) := do
  let k ← key
  equalsSign
  let v ← literal .parameterValue
  pure (k, v)

def parameter (m : ParameterMap) : Reading ParameterMap := do
  let p ← pair
  let _ ← token
  pure (m.insert p.1 p.2)

theorem key_eq_ok {c d : Cursor} {s : String} (h : key c = .ok (s, d)) :
    token c = .ok (.literal s false, d) := by
  obtain ⟨t, d', ht, h⟩ := bind_eq_ok h
  split at h
  · rename_i text
    by_cases he : text.isEmpty = true
    · simp only [he, if_true] at h; cases h
    · simp only [he] at h; cases h; exact ht
  · cases h

theorem equalsSign_eq_ok {c d : Cursor} {a : Unit} (h : equalsSign c = .ok (a, d)) :
    token c = .ok (.equals, d) := by
  obtain ⟨t, d', ht, h⟩ := bind_eq_ok h
  by_cases he : t = .equals
  · simp only [he, if_true] at h; cases h; exact he ▸ ht
  · simp only [he, if_false] at h; cases h

theorem readsOn_pair : ReadsOn pair := by
  intro c e p h
  obtain ⟨k, d₁, hk, h⟩ := bind_eq_ok h
  obtain ⟨u, d₂, hu, h⟩ := bind_eq_ok h
  obtain ⟨v, d₃, hv, h⟩ := bind_eq_ok h
  cases h
  have h₁ := token_eq_ok (key_eq_ok hk)
  have h₂ := token_eq_ok (equalsSign_eq_ok hu)
  obtain ⟨q, hv⟩ := literal_eq_ok hv
  have h₃ := token_eq_ok hv
  -- Whatever the first token is, the equals sign comes from the text.
  have := h₂.2.2 h₁.1 (by decide)
  omega

theorem readsOn_parameter (m : ParameterMap) : ReadsOn (parameter m) :=
  readsOn_pair.bind fun _ => keeps_token.bind fun _ => keeps_pure _

def command (tool : String) : Reading Command := do
  let action ← name .action
  let _ ← token
  let pairs ← whileCurrent .dash parameter readsOn_parameter ∅
  pure ⟨tool, action, pairs⟩

def another (commands : List Command) : Reading (List Command) := do
  let tool ← name .toolAfterPipe
  let c ← command tool
  pure (commands ++ [c])

theorem keeps_parameters (tool action : String) : Keeps (do
    let _ ← token
    let pairs ← whileCurrent .dash parameter readsOn_parameter ∅
    pure (⟨tool, action, pairs⟩ : Command)) :=
  keeps_token.bind fun _ => (keeps_whileCurrent _ _ _ _).bind fun _ => keeps_pure _

theorem readsOn_another (commands : List Command) : ReadsOn (another commands) := by
  intro c e cs h
  obtain ⟨tool, d₁, ht, h⟩ := bind_eq_ok h
  obtain ⟨cmd, d₂, hc, h⟩ := bind_eq_ok h
  obtain ⟨action, d₃, ha, hc⟩ := bind_eq_ok hc
  cases h
  obtain ⟨q, ht⟩ := name_eq_ok ht
  obtain ⟨r, ha⟩ := name_eq_ok ha
  have h₁ := token_eq_ok ht
  have h₂ := (token_eq_ok ha).2.2 h₁.1 (by simp)
  have h₃ := keeps_parameters tool action hc
  omega

def redirection : Reading (Option String) := do
  if (← current) = .redirect then
    let file ← literal .stdoutFile
    let _ ← token
    pure (fileName file)
  else pure none

def tail (tool : String) : Reading Pipeline := do
  let first ← command tool
  let commands ← whileCurrent .pipe another readsOn_another [first]
  let stdout ← redirection
  if (← current) = .endOfInput then pure ⟨none, stdout, commands⟩ else refuse .continuation

/-- Reads a whole line. An empty first literal is no tool name, which shows only when the token behind
it is known to be no redirection. -/
def line : Reading Pipeline := do
  let first ← literal .stdinOrTool
  if (← token) = .redirect then
    let tool ← name .toolAfterRedirect
    let p ← tail tool
    pure { p with stdin := fileName first }
  else
    pushBack
    if first.isEmpty then throw (.unexpectedToken 1 .stdinOrTool (.literal first true)) else tail first

end Reading

def parse (line : String) : Except SyntaxError Pipeline := (Reading.line (.ofLine line)).map (·.1)

end ToolPipeline.ControlLine
