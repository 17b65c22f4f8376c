import ToolPipeline.Shell.Builtins.Basic
import ToolPipeline.Shell.Signal

set_option autoImplicit false

/-!
The commands of the shell for signals, processes and the way commands go on.
-/

namespace ToolPipeline.Shell.Builtin

def signalShell (n : Nat) : Running Unit := do
  let m ← get
  if n = 0 then pure ()
  else if m.isChild then set { m with signals := m.signals ++ [n] }
  else
    match m.traps.get? n with
    | some action => if !action.isEmpty then set { m with signals := m.signals ++ [n] }
    | none => if !Signal.isHarmless n then throw (.killed n)

def sendSignal (n : Nat) (target : Chars) : Running Bool := do
  let process ← Running.count (if target.head? == some '-' then target.drop 1 else target)
  let m ← get
  if process = m.process then
    signalShell n
    pure true
  else if m.jobs.any fun j => j.1 = process then
    let stopped (j : Nat × Nat) : Nat × Nat := if j.1 = process then (j.1, 128 + n) else j
    if n ≠ 0 then set { m with jobs := m.jobs.map stopped }
    pure true
  else
    Running.warn "No such process\n".toList
    pure false

def killUsage : String :=
  "Usage: kill [-s sigspec | -signum | -sigspec] [pid | job]... or\nkill -l [exitstatus]"

def listSignals (operands : List Chars) : Running Nat := do
  match operands with
  | [] => sayLines (['0'] :: (List.range Signal.count).tail.map Signal.name)
  | a :: _ =>
    let n ← Running.count a
    let n := if 128 < n then n - 128 else n
    if 0 < n && n < Signal.count then sayLines [Signal.name n]
    else Running.fail ("invalid signal number or exit status: ".toList ++ a)
  pure 0

def kill : Builtin := fun arguments => do
  let send (n : Nat) (targets : List Chars) : Running Nat := do
    if targets.isEmpty then Running.failText killUsage
    let okay ← targets.mapM (sendSignal n)
    pure (if okay.all id then 0 else 1)
  match arguments with
  | [] => Running.failText killUsage
  | ('-' :: name) :: rest =>
    match Signal.ofText? 1 name with
    | some n => send n rest
    | none =>
      let (given, operands) ← parse "ls:" arguments
      let mut chosen := none
      for l in given do
        if l.letter == 's' then
          match Signal.ofText? 1 l.value with
          | some n => chosen := some n
          | none => Running.fail ("invalid signal number or name: ".toList ++ l.value)
      if given.any fun l => l.letter == 'l' then
        if chosen.isSome then Running.failText killUsage else listSignals operands
      else send (chosen.getD 15) operands
  | _ => send 15 arguments

def trap : Builtin := fun arguments => do
  let (_, operands) ← parse "" arguments
  match operands with
  | [] =>
    let traps := (← get).traps.toList.mergeSort fun a b => a.1 ≤ b.1
    sayLines (traps.map fun t => "trap -- ".toList ++ quoted t.2 ++ ' ' :: Signal.name t.1)
    pure 0
  | first :: rest =>
    let isNumber := !first.isEmpty && first.all Char.isDigit && (Signal.ofText? 0 first).isSome
    let (action, names) := if rest.isEmpty || isNumber then (['-'], operands) else (first, rest)
    for name in names do
      match Signal.ofText? 0 name with
      | none =>
        Running.writeChars 2 ("trap: ".toList ++ name ++ ": bad trap\n".toList)
        return 1
      | some n =>
        modify fun m => { m with
          traps := if action == ['-'] then m.traps.erase n else m.traps.insert n action }
    pure 0

def wait : Builtin := fun arguments => do
  let (_, operands) ← parse "" arguments
  let mut status := if operands.isEmpty then 0 else 127
  for a in operands do
    if a.head? == some '%' then
      match (← get).jobs.getLast? with
      | some j => status := j.2
      | none => Running.fail ("No such job: ".toList ++ a)
    else
      let n ← Running.count a
      match (← get).jobs.find? fun j => j.1 = n with
      | some j => status := j.2
      | none => pure ()
  if operands.isEmpty then modify fun m => { m with jobs := [] }
  pure status

def exit : Builtin := fun arguments => do
  match arguments with
  | a :: _ => throw (.exit ((← Running.count a) % 256))
  | [] =>
    let m ← get
    throw (.exit (m.trapStatus.getD m.status))

def «return» : Builtin := fun arguments => do
  let n ← match arguments with
    | a :: _ => Running.count a
    | [] => pure (← get).status
  modify fun m => { m with skip := .return }
  pure n

def leaveLoops (goesOn : Bool) : Builtin := fun arguments => do
  let n ← match arguments with
    | a :: _ => do
      let n ← Running.count a
      if n = 0 then Running.failNumber a
      pure n
    | [] => pure 1
  let levels := min n (← get).loops
  if levels ≠ 0 then modify fun m => { m with skip := if goesOn then .continue levels else .break levels }
  pure 0

def ulimit : Builtin := fun _ => do
  sayLines ["unlimited".toList]
  pure 0

def times : Builtin := fun _ => do
  sayLines (List.replicate 2 "0m0.000000s 0m0.000000s".toList)
  pure 0

def noJob : Builtin := fun _ => Running.failText "No current job"

end ToolPipeline.Shell.Builtin
