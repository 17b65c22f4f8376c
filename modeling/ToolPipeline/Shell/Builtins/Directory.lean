import ToolPipeline.Shell.Builtins.Basic

set_option autoImplicit false

/-!
The commands of the shell for the directory it works in and the rights of new files.
-/

namespace ToolPipeline.Shell.Builtin

def pathOf (l : Location) : Chars := Chars.ofString ("/" ++ "/".intercalate l)

def follow (start : Location) (path : Chars) : Location :=
  (Chars.splitOn '/' path).foldl (fun l part =>
    match part with
    | [] | ['.'] => l
    | ['.', '.'] => l.dropLast
    | name => l ++ [Chars.toText name]) (if path.head? == some '/' then [] else start)

/-- The directories in which a relative path is looked for, with whether the directory is told. -/
def searchPlaces (path : Chars) : Running (List (Chars × Bool)) := do
  let first := (Chars.splitOn '/' path).headD []
  if path.head? == some '/' || first == ['.'] || first == ['.', '.'] then pure [(path, false)]
  else
    let places := match ← Running.value? "CDPATH".toList with
      | some s => (Chars.splitOn ':' s).map fun d =>
        if d.isEmpty then (path, false)
        else ((if d.getLast? == some '/' then d else d ++ ['/']) ++ path, true)
      | none => []
    pure (places ++ [(path, false)])

def cd : Builtin := fun arguments => do
  let (_, operands) ← parse "LP" arguments
  let isBack := operands.head? == some ['-']
  let valueOf (name : String) : Running Chars := do return (← Running.value? name.toList).getD []
  let target ← match operands.head? with
    | none => valueOf "HOME"
    | some a => if isBack then valueOf "OLDPWD" else pure a
  let path := if target.isEmpty then ['.'] else target
  let m ← get
  let found := (← searchPlaces path).findSome? fun p =>
    let l := follow m.files.current p.1
    if m.files.isDirectoryAt l then some (l, p.2) else none
  match found with
  | none => Running.fail ("can't cd to ".toList ++ target)
  | some (l, isTold) =>
    let old := (← Running.value? "PWD".toList).getD []
    modify fun m => { m with files := { m.files with current := l } }
    Running.assignQuietly "OLDPWD".toList (some old) true false
    Running.assignQuietly "PWD".toList (some (pathOf l)) true false
    if isBack || isTold then sayLines [pathOf l]
    pure 0

def pwd : Builtin := fun arguments => do
  let _ ← parse "LP" arguments
  sayLines [pathOf (← get).files.current]
  pure 0

def rightsOf (n : Nat) : Chars :=
  (if n / 4 % 2 = 0 then ['r'] else []) ++ (if n / 2 % 2 = 0 then ['w'] else []) ++ (if n % 2 = 0 then ['x'] else [])

def symbolicMask (n : Nat) : Chars :=
  "u=".toList ++ rightsOf (n / 64 % 8) ++ ",g=".toList ++ rightsOf (n / 8 % 8) ++ ",o=".toList ++ rightsOf (n % 8)

def octal (width n : Nat) : Chars :=
  let digits := Nat.toDigits 8 n
  List.replicate (width - digits.length) '0' ++ digits

def rightBits (letters : Chars) : Nat :=
  (if letters.contains 'r' then 4 else 0) + (if letters.contains 'w' then 2 else 0) +
    (if letters.contains 'x' then 1 else 0)

def applyClause? (rights : Nat) (clause : Chars) : Option Nat :=
  let who := clause.takeWhile fun c => "ugoa".toList.contains c
  match clause.drop who.length with
  | op :: letters =>
    if !"+-=".toList.contains op || !letters.all fun c => "rwxXst".toList.contains c then none
    else
      let chosen (c : Char) : Bool := who.isEmpty || who.contains 'a' || who.contains c
      let bits := rightBits letters
      let change (c : Char) (old : Nat) : Nat :=
        if !chosen c then old
        else if op == '+' then old ||| bits
        else if op == '-' then old - (old &&& bits)
        else bits
      some (64 * change 'u' (rights / 64 % 8) + 8 * change 'g' (rights / 8 % 8) + change 'o' (rights % 8))
  | [] => none

def umask : Builtin := fun arguments => do
  let (given, operands) ← parse "S" arguments
  let mask := (← get).umask
  match operands with
  | [] =>
    sayLines [if given.isEmpty then octal 4 mask else symbolicMask mask]
    pure 0
  | a :: _ =>
    if a.head?.any Char.isDigit then
      if a.all fun c => c.isDigit && c != '8' && c != '9' then
        modify fun m => { m with umask := (Chars.digits 8 0 a).1 % 512 }
        pure 0
      else Running.failNumber a
    else
      match (Chars.splitOn ',' a).foldlM applyClause? (511 - mask) with
      | some rights =>
        modify fun m => { m with umask := 511 - rights }
        pure 0
      | none => Running.fail ("Illegal mode: ".toList ++ a)

end ToolPipeline.Shell.Builtin
