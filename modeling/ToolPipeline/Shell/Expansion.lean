import ToolPipeline.Shell.Arithmetic
import ToolPipeline.Shell.Builtins.Variables

set_option autoImplicit false

/-!
What words stand for. The scripts inside of words are run by a function that is given.
-/

namespace ToolPipeline.Shell

structure Expansion where
  fields : Bool
  /-- Whether text is cut into fields that comes from no value. -/
  cutsText : Bool
  home : Bool
  /-- Whether the word is an assignment, in which tildes also count behind the sign and behind colons. -/
  assigns : Bool
  deriving DecidableEq, Repr

namespace Expansion

def argument : Expansion := ⟨true, false, true, false⟩

def assignment : Expansion := ⟨false, false, false, true⟩

def single : Expansion := ⟨false, false, true, false⟩

def document : Expansion := ⟨false, false, false, false⟩

end Expansion

def homesOfUsers : List (String × String) :=
  [("root", "/root"), ("daemon", "/usr/sbin"), ("bin", "/bin"), ("sys", "/dev"), ("nobody", "/nonexistent")]

namespace Running

def homeOf (name : Chars) : Running (Option Chars) := do
  if name.isEmpty then value? "HOME".toList
  else pure ((homesOfUsers.find? fun p => p.1.toList == name).map fun p => p.2.toList)

/-- Expands the tildes of a text. What comes out are pieces, which are literal where a directory was put in, and
whether an equals sign was met. `atTilde` tells whether a tilde may stand here. -/
def expandTildes (e : Expansion) (isLast : Bool) :
    Nat → (atTilde met : Bool) → (plain : Chars) → Chars → Running (List (Bool × Chars) × Bool)
  | 0, _, met, plain, _ => pure ([(false, plain.reverse)], met)
  | fuel + 1, atTilde, met, plain, s => do
    match s with
    | [] => pure ([(false, plain.reverse)], met)
    | c :: rest =>
      let goOn : Running (List (Bool × Chars) × Bool) :=
        if e.assigns && c == '=' && !met then expandTildes e isLast fuel true true (c :: plain) rest
        else if e.assigns && c == ':' && met then expandTildes e isLast fuel true met (c :: plain) rest
        else expandTildes e isLast fuel false met (c :: plain) rest
      if c == '~' && atTilde then
        let name := rest.takeWhile fun d => d != '/' && !(e.assigns && d == ':')
        let behind := rest.drop name.length
        if behind.isEmpty && !isLast then goOn
        else
          match ← homeOf name with
          | none => goOn
          | some h =>
            let (pieces, met) ← expandTildes e isLast fuel false met [] behind
            pure ((false, plain.reverse) :: (true, h) :: pieces, met)
      else goOn

/-- What stands between the arguments when they become one text; zero keeps them apart as fields. -/
def argumentSeparator (e : Expansion) (quoted : Bool) (name : Chars) : Running (Option Char) := do
  let ifs := ((← get).vars.get? "IFS".toList).bind (·.value)
  if name == ['@'] && quoted && e.fields then pure (some '\x00')
  else
    match ifs with
    | none => pure (some ' ')
    | some s => pure (if e.fields && !quoted then some '\x00' else s.head?)

def parameterValue (e : Expansion) (quoted : Bool) (name : Chars) : Running (Option Chars) := do
  let m ← get
  match name with
  | ['$'] => pure (some (Chars.ofNat m.process))
  | ['?'] => pure (some (Chars.ofNat m.status))
  | ['#'] => pure (some (Chars.ofNat m.arguments.length))
  | ['!'] => pure (m.lastJob.map Chars.ofNat)
  | ['-'] =>
    pure (some (ShellOption.table.reverse.filterMap fun o => if m.options.contains o.1 then o.2.2 else none))
  | ['@'] | ['*'] =>
    let separator := (← argumentSeparator e quoted name).toList
    pure (some (Chars.join separator m.arguments))
  | _ =>
    if name.all Char.isDigit then
      let n := (Chars.digits 10 0 name).1
      pure (if n = 0 then some m.name else m.arguments[n - 1]?)
    else value? name

/-- The segments of a value. Those for all arguments are cut only where they meet. -/
def valueSegments (quoted : Bool) (name value : Chars) : Running (List Segment) := do
  let hasArguments := !(← get).arguments.isEmpty
  let splitting := if !quoted then .atSeparators
    else if name == ['@'] && hasArguments then .atZeros
    else .never
  pure [⟨Glyph.ofChars quoted value, splitting⟩]

def refuseMissing {α : Type} (name : Chars) : Running α := fail (name ++ ": parameter not set".toList)

/-- What a script writes as the value of a word: without zeros and without the line ends behind the last line. -/
def writtenValue (b : Bytes) : Chars :=
  Chars.ofBytes (((b.filter (· != 0)).reverse.dropWhile (· == 10)).reverse)

mutual

def expandPart (run : Command → Running Bytes) (e : Expansion) (isFirst isLast met : Bool) :
    Part → Running (List Segment × Bool)
  | .quoteMark => pure ([⟨[.mark], .never⟩], met)
  | .text s quoted => do
    if quoted then pure ([⟨Glyph.ofChars true s, .never⟩], met)
    else
      let splitting := if e.cutsText then Splitting.atSeparators else .never
      let (pieces, met) ← expandTildes e isLast (s.length + 1) (e.home && isFirst) met [] s
      pure (pieces.map fun p => ⟨Glyph.ofChars p.1 p.2, if p.1 then .never else splitting⟩, met)
  | .output script quoted => do
    let value := writtenValue (← run script)
    pure ([⟨Glyph.ofChars quoted value, if quoted then .never else .atSeparators⟩], met)
  | .arithmetic expression quoted => do
    let text := Segment.text (← expandAll run .document true false expression)
    let value := Chars.ofInt (← Arithmetic.evaluate text)
    pure ([⟨Glyph.ofChars quoted value, if quoted then .never else .atSeparators⟩], met)
  | .parameter name use word quoted => do
    let strict ← hasOption .nounset
    match use with
    | .faulty => failText "Bad substitution"
    | .value =>
      match ← parameterValue e quoted name with
      | some v => return (← valueSegments quoted name v, met)
      | none => if strict then refuseMissing name else pure ([], met)
    | .length =>
      let v ← parameterValue e quoted name
      if v.isNone && strict then refuseMissing name
      return (← valueSegments quoted name (Chars.ofNat (v.getD []).length), met)
    | .trimmed front longest =>
      match ← parameterValue e quoted name with
      | none => if strict then refuseMissing name else pure ([], met)
      | some v =>
        let pattern := Segment.pattern (← expandAll run .single true false word)
        return (← valueSegments quoted name (pattern.trim front longest v), met)
    | .alternative kind orEmpty =>
      let v ← parameterValue e quoted name
      let isMissing := v.all fun v => orEmpty && v.isEmpty
      let inner : Expansion := { e with cutsText := !quoted, home := true }
      match kind with
      | .replacement => if isMissing then pure ([], met) else return (← expandAll run inner true met word, met)
      | .default =>
        if isMissing then return (← expandAll run inner true met word, met)
        else return (← valueSegments quoted name (v.getD []), met)
      | .complaint =>
        if isMissing then
          let text := Segment.text (← expandAll run .single true false word)
          let standard := if orEmpty then "parameter not set or null" else "parameter not set"
          fail (name ++ [':', ' '] ++ if word.isEmpty then standard.toList else text)
        else return (← valueSegments quoted name (v.getD []), met)
      | .assignment =>
        if isMissing then
          let text := Segment.text (← expandAll run .single true false word)
          assignNamed name text
          return (← valueSegments quoted name text, met)
        else return (← valueSegments quoted name (v.getD []), met)

def expandAll (run : Command → Running Bytes) (e : Expansion) (isFirst met : Bool) : Word → Running (List Segment)
  | [] => pure []
  | p :: rest => do
    let (first, met) ← expandPart run e isFirst rest.isEmpty met p
    return first ++ (← expandAll run e false met rest)

end

def segments (run : Command → Running Bytes) (e : Expansion) (w : Word) : Running (List Segment) :=
  expandAll run e true false w

def wordText (run : Command → Running Bytes) (e : Expansion) (w : Word) : Running Chars := do
  return Segment.text (← segments run e w)

def wordPattern (run : Command → Running Bytes) (w : Word) : Running Pattern := do
  return Segment.pattern (← segments run .single w)

def wordFields (run : Command → Running Bytes) (w : Word) : Running (List Chars) := do
  let s ← segments run .argument w
  let files := (← get).files
  let expandsPaths := !(← hasOption .noglob)
  return (Segment.split (← Builtin.separators) none s).flatMap (Segment.resolve files expandsPaths)

end Running

end ToolPipeline.Shell
