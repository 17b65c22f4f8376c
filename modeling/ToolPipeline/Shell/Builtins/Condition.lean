import ToolPipeline.Shell.Builtins.Basic

set_option autoImplicit false

/-!
Conditions on texts, numbers and files, read from arguments and decided while they are read.
-/

namespace ToolPipeline.Shell.Builtin

namespace Condition

inductive Question where
  | exists
  | regular
  | directory
  | device
  | pipe
  | terminal
  | nonempty
  | executable
  | never
  | emptyText
  | text
  deriving DecidableEq, Repr

inductive Comparison where
  | equal
  | unequal
  | before
  | behind
  | number (holds : Ordering → Bool)
  | newer
  | older
  | sameFile

inductive Word where
  | operand
  | question (q : Question)
  | comparison (c : Comparison)
  | negation
  | both
  | either
  | opening
  | closing
  | ending

def questions : List (String × Question) :=
  [("-r", .exists), ("-w", .exists), ("-x", .executable), ("-e", .exists), ("-f", .regular), ("-d", .directory),
    ("-c", .device), ("-b", .never), ("-p", .pipe), ("-u", .never), ("-g", .never), ("-k", .never),
    ("-s", .nonempty), ("-t", .terminal), ("-z", .emptyText), ("-n", .text), ("-h", .never), ("-O", .exists),
    ("-G", .exists), ("-L", .never), ("-S", .never)]

def comparisons : List (String × Comparison) :=
  [("=", .equal), ("!=", .unequal), ("<", .before), (">", .behind), ("-eq", .number (· == .eq)),
    ("-ne", .number (· != .eq)), ("-ge", .number (· != .lt)), ("-gt", .number (· == .gt)),
    ("-le", .number (· != .gt)), ("-lt", .number (· == .lt)), ("-nt", .newer), ("-ot", .older), ("-ef", .sameFile)]

def comparison? (s : Chars) : Option Comparison := (comparisons.find? fun p => p.1.toList == s).map (·.2)

def isOperand : List Chars → Bool
  | _ :: next :: _ :: _ => (comparison? next).isSome
  | [_] => true
  | _ => false

def classify (arguments : List Chars) : Word :=
  match arguments with
  | [] => .ending
  | s :: rest =>
    match questions.find? fun p => p.1.toList == s with
    | some p => if isOperand arguments then .operand else .question p.2
    | none =>
      match comparison? s with
      | some c => .comparison c
      | none =>
        match String.ofList s with
        | "!" => .negation
        | "-a" => .both
        | "-o" => .either
        | "(" => if rest.isEmpty then .operand else .opening
        | ")" => .closing
        | _ => .operand

/-- What is behind a path: an entry, or `none` for the end of a pipe. -/
def find (path : Chars) : Running (Option (Option Entry)) := do
  let files := (← get).files
  match files.lookup path.toText with
  | .error _ => pure none
  | .ok (.device (.stream n)) =>
    pure (match ← Running.channel? n with
      | none => none
      | some (_, .file l _ _) | some (_, .directory l) => some (files.entry? l)
      | some (_, .device d) => some (some (.device d))
      | some (_, .source _) | some (_, .sink _) => some none)
  | .ok e => pure (some (some e))

def isProgram (path : Chars) : Running Bool := do
  let files := (← get).files
  pure (match files.locate path.toText with
    | .ok l => l.dropLast.getLast? == some "bin" && files.entry? l == some (.file [])
    | .error _ => false)

def numberOf (s : Chars) : Running Int :=
  match LeadingNumber.whole? 10 s with
  | some n => pure n
  | none => Running.failNumber s

def ask (q : Question) (s : Chars) : Running Bool := do
  match q with
  | .never => pure false
  | .terminal =>
    let _ ← numberOf s
    pure false
  | .emptyText => pure s.isEmpty
  | .text => pure !s.isEmpty
  | .exists => return (← find s).isSome
  | .regular => return (← find s).any fun e => (e matches some (.file _))
  | .directory => return (← find s) == some (some .directory)
  | .executable => return (← find s) == some (some .directory) || (← isProgram s)
  | .device => return (← find s).any fun e => (e matches some (.device _))
  | .pipe => return (← find s) == some none
  | .nonempty =>
    return (← find s).any fun
      | some (.file b) => !b.isEmpty
      | some .directory => true
      | _ => false

def compareTexts (c : Comparison) (a b : Chars) : Running Bool := do
  match c with
  | .equal => pure (a == b)
  | .unequal => pure (a != b)
  | .before => pure (a != b && Chars.lessOrEqual a b)
  | .behind => pure (a != b && Chars.lessOrEqual b a)
  | .number holds =>
    let x ← numberOf a
    let y ← numberOf b
    pure (holds (compare x y))
  | .newer | .older => pure false
  | .sameFile =>
    let files := (← get).files
    match files.locate a.toText, files.locate b.toText with
    | .ok x, .ok y => pure (x == y)
    | _, _ => pure false

/-- What is left of the arguments. The first of them is the last that was looked at. -/
abbrev Reading := StateT (List Chars) Running

def fault {α : Type} (word problem : Chars) : Reading α :=
  (Running.fail (if word.isEmpty then problem else word ++ ": ".toList ++ problem) : Running α)

def advance (n : Nat) : Reading Word := do
  modify fun l => l.drop n
  return classify (← get)

def following : Reading Word := do return classify ((← get).drop 1)

mutual

def disjunction : Nat → Word → Reading Bool
  | 0, _ => pure false
  | fuel + 1, w => do
    let a ← conjunction fuel w
    if (← following) matches .either then
      let b ← disjunction fuel (← advance 2)
      pure (a || b)
    else pure a

def conjunction : Nat → Word → Reading Bool
  | 0, _ => pure false
  | fuel + 1, w => do
    let a ← negation fuel w
    if (← following) matches .both then
      let b ← conjunction fuel (← advance 2)
      pure (a && b)
    else pure a

def negation : Nat → Word → Reading Bool
  | 0, _ => pure false
  | fuel + 1, w => do
    match w with
    | .negation =>
      let next ← following
      if !(next matches .ending) then modify fun l => l.drop 1
      return !(← negation fuel next)
    | _ => primary fuel w

def primary : Nat → Word → Reading Bool
  | 0, _ => pure false
  | fuel + 1, w => do
    match w with
    | .ending => pure false
    | .opening =>
      let next ← advance 1
      if next matches .closing then pure false
      else
        let a ← disjunction fuel next
        if (← advance 1) matches .closing then pure a
        else fault [] "closing paren expected".toList
    | .question q =>
      match ← get with
      | _ :: operand :: rest =>
        set (operand :: rest)
        (ask q operand : Running Bool)
      | l => fault (l.headD []) "argument expected".toList
    | _ =>
      match ← following with
      | .comparison c =>
        match ← get with
        | a :: _ :: b :: rest =>
          set (b :: rest)
          (compareTexts c a b : Running Bool)
        | _ :: word :: _ => fault word "argument expected".toList
        | _ => pure false
      | _ => pure (((← get).headD []) != [])

end

def decide (w : Word) : Reading Bool := do
  let a ← disjunction (8 * (← get).length + 8) w
  match ← get with
  | word :: _ :: _ => fault word "unexpected operator".toList
  | _ => pure a

/-- Decides a condition; the number of arguments tells how some are meant. -/
def holds : Nat → List Chars → Running Bool
  | 0, _ => pure false
  | fuel + 1, arguments => do
    let inParentheses := arguments.head? == some ['('] && arguments.getLast? == some [')']
    match arguments with
    | [] => pure false
    | [_, op, _] =>
      if (comparison? op).isSome then return (← (decide .operand).run arguments).1
      else if inParentheses then byWords arguments.tail.dropLast
      else if arguments.head? == some ['!'] then return !(← holds fuel arguments.tail)
      else byWords arguments
    | [_, _, _, _] =>
      if inParentheses then byWords arguments.tail.dropLast
      else if arguments.head? == some ['!'] then return !(← holds fuel arguments.tail)
      else byWords arguments
    | _ => byWords arguments
where
  byWords (arguments : List Chars) : Running Bool := do
    return (← (decide (classify arguments)).run arguments).1

end Condition

def test (brackets : Bool) : Builtin := fun arguments => do
  if brackets && arguments.getLast? != some [']'] then Running.failText "missing ]"
  let arguments := if brackets then arguments.dropLast else arguments
  return if ← Condition.holds (arguments.length + 1) arguments then 0 else 1

end ToolPipeline.Shell.Builtin
