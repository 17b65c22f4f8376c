import ToolPipeline.Shell.Programs.Basic

set_option autoImplicit false

/-!
Writing files one after another, with numbers before lines or visible forms of what cannot be seen.
-/

namespace ToolPipeline.Shell.Program

namespace Cat

structure Style where
  numbers : Bool
  sparesEmpty : Bool
  squeezes : Bool
  ends : Bool
  tabs : Bool
  hidden : Bool
  deriving DecidableEq, Repr

structure State where
  fresh : Bool
  empties : Nat
  number : Nat
  /-- Whether a carriage return waits for the byte behind it. -/
  returned : Bool
  deriving DecidableEq, Repr

def start : State := ⟨true, 0, 1, false⟩

def visible (s : Style) (b : UInt8) : Bytes :=
  if b == 9 then (if s.tabs then [94, 73] else [9])
  else if !s.hidden then [b]
  else
    let low (b : UInt8) : Bytes := if b < 32 then [94, b + 64] else if b == 127 then [94, 63] else [b]
    if 128 ≤ b then 77 :: 45 :: low (b - 128) else low b

def numberField (n : Nat) : Bytes :=
  let digits := (Chars.ofNat n).toBytes
  List.replicate (6 - digits.length) 32 ++ digits ++ [9]

def step (s : Style) (acc : List Bytes × State) (b : UInt8) : List Bytes × State :=
  let (out, t) := acc
  let (out, t) := if t.returned && b != 10 then (([13] : Bytes) :: out, { t with returned := false }) else (out, t)
  if b == 10 then
    let isEmpty := t.fresh
    if s.squeezes && isEmpty && 1 ≤ t.empties then (out, t)
    else
      let numbered := isEmpty && s.numbers && !s.sparesEmpty
      let front := if numbered then numberField t.number else []
      let carriage : Bytes := if t.returned then [94, 77] else []
      let back : Bytes := if s.ends then [36, 10] else [10]
      ((front ++ carriage ++ back) :: out,
        ⟨true, if isEmpty then t.empties + 1 else 0, if numbered then t.number + 1 else t.number, false⟩)
  else
    let numbered := t.fresh && s.numbers
    let front := if numbered then numberField t.number else []
    let t := { t with fresh := false, empties := 0, number := if numbered then t.number + 1 else t.number }
    if b == 13 && s.ends && !s.hidden then (front :: out, { t with returned := true })
    else ((front ++ visible s b) :: out, t)

def apply (s : Style) (t : State) (b : Bytes) : Bytes × State :=
  if s = ⟨false, false, false, false, false, false⟩ then (b, t)
  else
    let (out, t) := b.foldl (step s) ([], t)
    let out := if t.returned then [13] :: out else out
    (out.reverse.flatten, { t with returned := false })

def specs : List OptionSpec :=
  [.plain 'b' "number-nonblank", .plain 'n' "number", .plain 's' "squeeze-blank", .plain 'v' "show-nonprinting",
    .plain 'E' "show-ends", .plain 'T' "show-tabs", .plain 'A' "show-all", .letterOnly 'e', .letterOnly 't',
    .letterOnly 'u'] ++ commonOptions

def title : Title := ⟨"cat", ["[OPTION]... [FILE]..."]⟩

def style (l : List Given) : Style :=
  let has := Given.has l
  { numbers := has "n" || has "b"
    sparesEmpty := has "b"
    squeezes := has "s"
    ends := has "E" || has "A" || has "e"
    tabs := has "T" || has "A" || has "t"
    hidden := has "v" || has "A" || has "e" || has "t" }

/-- Whether reading a file would go on with what is written to it. -/
def readsOutput (operand : Chars) : Running Bool := do
  let place (i : Nat) : Running (Option (Location × Nat × Bool)) := do
    match ← Running.channel? i with
    | some (_, .file l offset mode) => pure (some (l, offset, mode = .append))
    | _ => pure none
  match ← place 1 with
  | none => pure false
  | some (l, offset, appends) =>
    let files := (← get).files
    let input ← place 0
    if operand == ['-'] then pure (input.any fun p => p.1 = l && behind files p.2.1 l offset appends)
    else pure ((files.locate operand.toText).toOption = some l && behind files 0 l offset appends)
where
  behind (files : FileTree) (reading : Nat) (l : Location) (offset : Nat) (appends : Bool) : Bool :=
    reading < if appends then ((files.content? l).getD []).length else offset

end Cat

def cat : Program := fun name arguments => do
  let l := Given.readAll Cat.specs arguments
  match instead? Cat.title 1 name l with
  | some a => a
  | none =>
    if !(← isOpen 1) then
      complainText name ("standard output: " ++ badDescriptor)
      return 1
    let style := Cat.style l
    let mut state := Cat.start
    let mut status := 0
    let mut closed := false
    for operand in orStandardInput (Given.operands l) do
      let title := Quoting.nameIfNeeded operand
      if operand == ['-'] && !(← isOpen 0) then closed := true
      if ← Cat.readsOutput operand then
        complain name (title ++ ": input file is output file".toList)
        status := 1
      else
        match ← input operand with
        | .content b =>
          let (out, next) := Cat.apply style state b
          state := next
          status := max status (← finish name out 0)
        | .missing reason | .unreadable reason =>
          complain name (title ++ ": ".toList ++ reason.toList)
          status := 1
    if closed then complainText name ("closing standard input: " ++ badDescriptor)
    pure status

end ToolPipeline.Shell.Program
