import ToolPipeline.Shell.Programs.Basic

set_option autoImplicit false

/-!
Counting lines, words, characters and bytes.
-/

namespace ToolPipeline.Shell.Program

namespace Wc

structure Counts where
  lines : Nat
  words : Nat
  chars : Nat
  bytes : Nat
  width : Nat
  deriving DecidableEq, Repr

def Counts.zero : Counts := ⟨0, 0, 0, 0, 0⟩

def Counts.add (a b : Counts) : Counts :=
  ⟨a.lines + b.lines, a.words + b.words, a.chars + b.chars, a.bytes + b.bytes, max a.width b.width⟩

structure Progress where
  counts : Counts
  inWord : Bool
  position : Nat
  deriving DecidableEq, Repr

/-- Counts a character. What cannot be seen neither starts a word nor ends one. -/
def step (p : Progress) (g : EncodedChar) : Progress :=
  let c := p.counts
  match g.char? with
  | none => p
  | some d =>
    let c := { c with chars := c.chars + 1 }
    if d == '\n' then ⟨{ c with lines := c.lines + 1, width := max c.width p.position }, false, 0⟩
    else if d == '\r' || d == '\x0c' then ⟨{ c with width := max c.width p.position }, false, 0⟩
    else if d == '\t' then ⟨c, false, p.position + 8 - p.position % 8⟩
    else if d == '\x0b' then ⟨c, false, p.position⟩
    else if !g.isPrintable then ⟨c, p.inWord, p.position⟩
    else if g.isBlank then ⟨c, false, p.position + g.width⟩
    else ⟨if p.inWord then c else { c with words := c.words + 1 }, true, p.position + g.width⟩

def count (s : Bytes) : Counts :=
  let p := (EncodedChar.ofChars (.ofBytes s)).foldl step ⟨.zero, false, 0⟩
  { p.counts with width := max p.counts.width p.position, bytes := s.length }

def specs : List OptionSpec :=
  [.plain 'c' "bytes", .plain 'm' "chars", .plain 'l' "lines", .plain 'w' "words",
    .wordOnly "files0-from" .required, .plain 'L' "max-line-length", .wordOnly "total" .required] ++ commonOptions

def title : Title := ⟨"wc", ["[OPTION]... [FILE]...", "[OPTION]... --files0-from=F"]⟩

inductive Total where
  | auto
  | always
  | only
  | never
  deriving DecidableEq, Repr

def totals : List (String × Total) := [("auto", .auto), ("always", .always), ("only", .only), ("never", .never)]

def wanted (l : List Given) (c : Counts) : List Nat :=
  let has := Given.has l
  let standard := !(has "l" || has "w" || has "m" || has "c" || has "L")
  (if standard || has "l" then [c.lines] else []) ++ (if standard || has "w" then [c.words] else []) ++
    (if has "m" then [c.chars] else []) ++ (if standard || has "c" then [c.bytes] else []) ++
    (if has "L" then [c.width] else [])

def row (width : Nat) (numbers : List Nat) (title : Option Chars) : Chars :=
  let columns := numbers.map fun n =>
    let s := Chars.ofNat n
    List.replicate (width - s.length) ' ' ++ s
  let title := match title with
    | some t => ' ' :: (if t.contains '\n' then Quoting.nameIfNeeded t else t)
    | none => []
  Chars.join [' '] columns ++ title ++ ['\n']

/-- The size of the regular file behind an operand; something else counts as `none`, and what is not there as
`some none`. -/
def size (operand : Chars) : Running (Option (Option Nat)) := do
  let files := (← get).files
  if operand == ['-'] then
    match ← Running.channel? 0 with
    | some (_, .file l _ _) => pure (some (some ((files.content? l).getD []).length))
    | some _ => pure none
    | none => pure (some none)
  else
    match files.lookup operand.toText with
    | .ok (.file b) => pure (some (some b.length))
    | .ok (.device (.stream n)) =>
      match ← Running.channel? n with
      | some (_, .file l _ _) => pure (some (some ((files.content? l).getD []).length))
      | some _ => pure none
      | none => pure (some none)
    | .ok _ => pure none
    | .error _ => pure (some none)

def columnWidth (operands : List Chars) : Running Nat := do
  let sizes ← operands.mapM size
  let regular := (sizes.filterMap fun s => s.bind id).foldr (· + ·) 0
  pure (max (if sizes.contains none then 7 else 1) (Chars.ofNat regular).length)

end Wc

def wc : Program := fun name arguments => do
  let l := Given.readAll Wc.specs arguments
  match instead? Wc.title 1 name l with
  | some a => a
  | none =>
    let total ← match Given.value? l "total" with
      | none => pure Wc.Total.auto
      | some w =>
        match wordMeaning Wc.totals "--total".toList w with
        | .ok t => pure t
        | .error e => return (← badWord 1 name e)
    let operands := Given.operands l
    let inputs := orStandardInput operands
    let single := inputs.length = 1 && (Wc.wanted l .zero).length = 1
    let width ← if total = .only || single then pure 1 else Wc.columnWidth inputs
    let mut status := 0
    let mut sum := Wc.Counts.zero
    let mut closed := false
    for operand in inputs do
      let title := if operands.isEmpty then none else some operand
      let shown := if operand == ['-'] then "'standard input'".toList else Quoting.nameIfNeeded operand
      if operand == ['-'] && !(← isOpen 0) then closed := true
      let counts ← match ← input operand with
        | .content b => pure (some (Wc.count b))
        | .unreadable reason =>
          complain name (shown ++ ": ".toList ++ reason.toList)
          status := 1
          pure (some .zero)
        | .missing reason =>
          complain name (shown ++ ": ".toList ++ reason.toList)
          status := 1
          pure none
      match counts with
      | none => pure ()
      | some c =>
        sum := sum.add c
        if total ≠ .only then
          status := max status (← finish name (Chars.toBytes (Wc.row width (Wc.wanted l c) title)) 0)
    if total = .only || total = .always || (total = .auto && 1 < inputs.length) then
      let title := if total = .only then none else some "total".toList
      status := max status (← finish name (Chars.toBytes (Wc.row width (Wc.wanted l sum) title)) 0)
    if closed then complainText name ("-: " ++ badDescriptor)
    pure status

end ToolPipeline.Shell.Program
