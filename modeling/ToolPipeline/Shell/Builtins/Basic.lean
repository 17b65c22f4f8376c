import ToolPipeline.Shell.Machine

set_option autoImplicit false

/-!
What the commands have in common that a shell does by itself: options, and texts that a shell reads back.
-/

namespace ToolPipeline.Shell

abbrev Builtin := (arguments : List Chars) → Running Nat

namespace Builtin

structure Letter where
  letter : Char
  value : Chars
  deriving DecidableEq, Repr

/-- Whether a letter is known and takes a value, by a list in which a colon stands behind those that do. -/
def takesValue? (known : Chars) (c : Char) : Option Bool :=
  match known with
  | [] => none
  | d :: ':' :: rest => if d == c then some true else takesValue? rest c
  | d :: rest => if d == c then some false else takesValue? rest c

def letters (known : Chars) : Chars → List Chars → Running (List Letter × List Chars)
  | [], rest => pure ([], rest)
  | c :: more, rest => do
    match takesValue? known c with
    | none => Running.fail ("Illegal option -".toList ++ [c])
    | some false =>
      let r ← letters known more rest
      pure (⟨c, []⟩ :: r.1, r.2)
    | some true =>
      if !more.isEmpty then pure ([⟨c, more⟩], rest)
      else
        match rest with
        | v :: rest => pure ([⟨c, v⟩], rest)
        | [] => Running.fail ("No arg for -".toList ++ [c] ++ " option".toList)

def options (known : Chars) : Nat → List Chars → Running (List Letter × List Chars)
  | 0, arguments => pure ([], arguments)
  | fuel + 1, arguments => do
    match arguments with
    | ['-', '-'] :: rest => pure ([], rest)
    | ('-' :: c :: more) :: rest =>
      let r ← letters known (c :: more) rest
      let s ← options known fuel r.2
      pure (r.1 ++ s.1, s.2)
    | _ => pure ([], arguments)

def parse (known : String) (arguments : List Chars) : Running (List Letter × List Chars) :=
  options known.toList (arguments.length + 1) arguments

def singleQuoted : Nat → Chars → Chars
  | 0, _ => []
  | fuel + 1, s =>
    let plain := s.takeWhile (· != '\'')
    let rest := s.drop plain.length
    let quotes := rest.takeWhile (· == '\'')
    let behind := rest.drop quotes.length
    '\'' :: plain ++ ['\''] ++
      (if quotes.isEmpty then [] else '"' :: quotes ++ ['"']) ++
      (if behind.isEmpty then [] else singleQuoted fuel behind)

def quoted (s : Chars) : Chars := singleQuoted (s.length + 1) s

def sayLines (l : List Chars) : Running Unit := Running.say (l.flatMap fun s => s ++ ['\n'])

def variableLines (front : Chars) (p : Variable → Bool) : Running (List Chars) := do
  let chosen := (← get).vars.toList.filter fun v => p v.2
  pure ((chosen.mergeSort fun a b => Chars.lessOrEqual a.1 b.1).map fun v =>
    (if front.isEmpty then [] else front ++ [' ']) ++ v.1 ++
      match v.2.value with
      | some s => '=' :: quoted s
      | none => [])

/-- The place in a table that decides the order in which names are listed. -/
def bucket (size : Nat) (name : Chars) : Nat :=
  match name with
  | [] => 0
  | c :: _ => (16 * c.toNat + (name.map Char.toNat).foldr (· + ·) 0) % size

def inTableOrder {α : Type} (size : Nat) (key : α → Chars) (l : List α) : List α :=
  l.mergeSort fun a b => bucket size (key a) ≤ bucket size (key b)

end Builtin

end ToolPipeline.Shell
