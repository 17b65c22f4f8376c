import ToolPipeline.Shell.Machine

set_option autoImplicit false

/-!
Arithmetic expressions in scripts: whole numbers of 64 bits with the operators of C. An expression is evaluated
while it is read, so what stands before a mistake still takes place. Operands that do not matter are read without
an effect.
-/

namespace ToolPipeline.Shell.Arithmetic

inductive Operator where
  | mul | div | rem | add | sub | shiftLeft | shiftRight | lt | le | gt | ge | eq | ne | bitAnd | bitXor | bitOr
  deriving DecidableEq, Repr

inductive Token where
  | number (n : Int)
  | name (s : Chars)
  | operator (o : Operator)
  | assignment (o : Option Operator)
  | both
  | either
  | negation
  | complement
  | question
  | colon
  | opening
  | closing
  | unknown
  deriving DecidableEq, Repr

namespace Operator

/-- Operators of a smaller level bind more. -/
def level : Operator → Nat
  | mul | div | rem => 0
  | add | sub => 1
  | shiftLeft | shiftRight => 2
  | lt | le | gt | ge => 3
  | eq | ne => 4
  | bitAnd => 5
  | bitXor => 6
  | bitOr => 7

def truth (b : Bool) : Int := if b then 1 else 0

def bitwise (f : Nat → Nat → Nat) (a b : Int) : Int :=
  LeadingNumber.wrap (f (a % Nat.pow 2 64).toNat (b % Nat.pow 2 64).toNat)

def compute? (o : Operator) (a b : Int) : Option Int :=
  match o with
  | mul => some (LeadingNumber.wrap (a * b))
  | div => if b = 0 then none else some (LeadingNumber.wrap (a.tdiv b))
  | rem => if b = 0 then none else some (a.tmod b)
  | add => some (LeadingNumber.wrap (a + b))
  | sub => some (LeadingNumber.wrap (a - b))
  | shiftLeft => some (LeadingNumber.wrap (a * Nat.pow 2 (b % 64).toNat))
  | shiftRight => some (a / Nat.pow 2 (b % 64).toNat)
  | lt => some (truth (a < b))
  | le => some (truth (a ≤ b))
  | gt => some (truth (b < a))
  | ge => some (truth (b ≤ a))
  | eq => some (truth (a == b))
  | ne => some (truth (a != b))
  | bitAnd => some (bitwise Nat.land a b)
  | bitXor => some (bitwise Nat.xor a b)
  | bitOr => some (bitwise Nat.lor a b)

end Operator

/-- The tokens that are no numbers or names, longer ones before their beginnings. -/
def symbols : List (String × Token) :=
  [("<<=", .assignment (some .shiftLeft)), (">>=", .assignment (some .shiftRight)), ("<<", .operator .shiftLeft),
    (">>", .operator .shiftRight), ("<=", .operator .le), (">=", .operator .ge), ("<", .operator .lt),
    (">", .operator .gt), ("==", .operator .eq), ("!=", .operator .ne), ("=", .assignment none), ("!", .negation),
    ("||", .either), ("|=", .assignment (some .bitOr)), ("|", .operator .bitOr), ("&&", .both),
    ("&=", .assignment (some .bitAnd)), ("&", .operator .bitAnd), ("^=", .assignment (some .bitXor)),
    ("^", .operator .bitXor), ("*=", .assignment (some .mul)), ("*", .operator .mul),
    ("/=", .assignment (some .div)), ("/", .operator .div), ("%=", .assignment (some .rem)), ("%", .operator .rem),
    ("+=", .assignment (some .add)), ("+", .operator .add), ("-=", .assignment (some .sub)),
    ("-", .operator .sub), ("~", .complement), ("?", .question), (":", .colon), ("(", .opening), (")", .closing)]

def tokens : Nat → Chars → List Token
  | 0, _ => []
  | fuel + 1, s =>
    match s with
    | [] => []
    | c :: rest =>
      if c == ' ' || c == '\t' || c == '\n' then tokens fuel rest
      else if c.isDigit then
        let n := LeadingNumber.read 0 s
        .number (LeadingNumber.clamp n.value) :: tokens fuel n.rest
      else if Chars.isNameStart c then
        let name := s.takeWhile Chars.isNameChar
        .name name :: tokens fuel (s.drop name.length)
      else
        match symbols.find? fun p => p.1.toList.isPrefixOf s with
        | some (text, t) => t :: tokens fuel (s.drop text.length)
        | none => [.unknown]

structure Progress where
  text : Chars
  rest : List Token
  deriving DecidableEq, Repr

abbrev Evaluation := StateT Progress Running

def fail {α : Type} (problem : String) : Evaluation α := do
  let p ← get
  (Running.fail (Chars.ofString s!"arithmetic expression: {problem}: \"" ++ p.text ++ ['"']) : Running α)

def peek : Evaluation (Option Token) := do return (← get).rest.head?

def skip : Evaluation Unit := modify fun p => { p with rest := p.rest.drop 1 }

def expect (t : Token) (problem : String) : Evaluation Unit := do
  if (← peek) == some t then skip else fail problem

def valueOf (name : Chars) : Running Int := do
  let text := (← Running.value? name).getD []
  match LeadingNumber.whole? 0 text with
  | some n => pure n
  | none => Running.failNumber text

def apply (o : Operator) (a b : Int) : Evaluation Int :=
  match o.compute? a b with
  | some n => pure n
  | none => fail "division by zero"

mutual

/-- Reads an expression that may be an assignment. Without `counts` it has no effect. -/
def assignment : Nat → (counts : Bool) → Evaluation Int
  | 0, _ => pure 0
  | fuel + 1, counts => do
    match (← get).rest with
    | .name name :: .assignment o :: rest =>
      modify fun p => { p with rest }
      let n ← assignment fuel counts
      if !counts then pure n
      else
        let n ← match o with
          | some o => do
            let old ← valueOf name
            apply o old n
          | none => pure n
        (Running.assign name (Chars.ofInt n) : Running Unit)
        pure n
    | _ => choice fuel counts

def choice : Nat → (counts : Bool) → Evaluation Int
  | 0, _ => pure 0
  | fuel + 1, counts => do
    let a ← disjunction fuel counts
    if (← peek) == some .question then
      skip
      let b ← assignment fuel (counts && a ≠ 0)
      expect .colon "expecting ':'"
      let c ← choice fuel (counts && a = 0)
      pure (if a ≠ 0 then b else c)
    else pure a

def disjunction : Nat → (counts : Bool) → Evaluation Int
  | 0, _ => pure 0
  | fuel + 1, counts => do
    let a ← conjunction fuel counts
    if (← peek) == some .either then
      skip
      let b ← disjunction fuel (counts && a = 0)
      pure (Operator.truth (a ≠ 0 || b ≠ 0))
    else pure a

def conjunction : Nat → (counts : Bool) → Evaluation Int
  | 0, _ => pure 0
  | fuel + 1, counts => do
    let a ← operation fuel counts
    if (← peek) == some .both then
      skip
      let b ← conjunction fuel (counts && a ≠ 0)
      pure (Operator.truth (a ≠ 0 && b ≠ 0))
    else pure a

def operation : Nat → (counts : Bool) → Evaluation Int
  | 0, _ => pure 0
  | fuel + 1, counts => do
    let a ← operand fuel counts
    match ← peek with
    | some (.operator o) =>
      skip
      operations fuel counts a o 8
    | _ => pure a

/-- Goes on behind an operand and an operator, as long as operators bind more than a level. -/
def operations : Nat → (counts : Bool) → Int → Operator → (level : Nat) → Evaluation Int
  | 0, _, a, _, _ => pure a
  | fuel + 1, counts, a, o, level => do
    let b ← operand fuel counts
    let b ← match ← peek with
      | some (.operator o₂) =>
        if o₂.level < o.level then
          skip
          operations fuel counts b o₂ o.level
        else pure b
      | _ => pure b
    let a ← if counts then apply o a b else pure b
    match ← peek with
    | some (.operator o₂) =>
      if o₂.level < level then
        skip
        operations fuel counts a o₂ level
      else pure a
    | _ => pure a

def operand : Nat → (counts : Bool) → Evaluation Int
  | 0, _ => pure 0
  | fuel + 1, counts => do
    match ← peek with
    | some .opening =>
      skip
      let n ← assignment fuel counts
      expect .closing "expecting ')'"
      pure n
    | some (.number n) =>
      skip
      pure n
    | some (.name s) =>
      skip
      if counts then (valueOf s : Running Int) else pure 0
    | some (.operator .add) =>
      skip
      operand fuel counts
    | some (.operator .sub) =>
      skip
      return LeadingNumber.wrap (-(← operand fuel counts))
    | some .negation =>
      skip
      return Operator.truth ((← operand fuel counts) == 0)
    | some .complement =>
      skip
      return -(← operand fuel counts) - 1
    | _ => fail "expecting primary"

end

def evaluate (text : Chars) : Running Int := do
  let ts := tokens (text.length + 1) text
  let whole : Evaluation Int := do
    let n ← assignment (16 * ts.length + 32) true
    if (← peek).isSome then fail "expecting EOF"
    pure n
  return (← whole.run ⟨text, ts⟩).1

end ToolPipeline.Shell.Arithmetic
