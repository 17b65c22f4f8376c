import ToolPipeline.Shell.Binary64

set_option autoImplicit false

/-!
Formatted printing: a format with directives that is used again and again until all arguments are printed.
-/

namespace ToolPipeline.Shell.Format

def isOctal (c : Char) : Bool := '0' ≤ c && c ≤ '7'

def octal (limit acc : Nat) (s : Chars) : Nat × Chars :=
  match limit, s with
  | limit + 1, c :: rest => if isOctal c then octal limit (acc * 8 + (c.toNat - 48)) rest else (acc, s)
  | _, _ => (acc, s)

def byteChar (n : Nat) : Char := Char.ofNat (n % 256)

def letterEscape? : Char → Option Char
  | 'a' => some '\x07'
  | 'b' => some '\x08'
  | 'e' => some '\x1b'
  | 'f' => some '\x0c'
  | 'n' => some '\n'
  | 'r' => some '\r'
  | 't' => some '\t'
  | 'v' => some '\x0b'
  | '\\' => some '\\'
  | _ => none

/-- Reads an escape behind its backslash. An unknown one stands for the backslash. -/
def escape (s : Chars) : Char × Chars :=
  match s with
  | [] => ('\\', [])
  | c :: rest =>
    if isOctal c then
      let (n, rest) := octal 3 0 s
      (byteChar n, rest)
    else
      match letterEscape? c with
      | some e => (e, rest)
      | none => ('\\', s)

/-- Resolves the escapes of a text, with a zero in front of octal digits; the flag tells whether the text
asks to stop printing. -/
def unescape (acc : Chars) : Nat → Chars → Chars × Bool
  | 0, _ => (acc.reverse, false)
  | fuel + 1, s =>
    match s with
    | [] => (acc.reverse, false)
    | '\\' :: 'c' :: _ => (acc.reverse, true)
    | '\\' :: '0' :: rest =>
      let (n, rest) := octal 3 0 rest
      unescape (byteChar n :: acc) fuel rest
    | '\\' :: rest =>
      let (c, rest) := escape rest
      unescape (c :: acc) fuel rest
    | c :: rest => unescape (c :: acc) fuel rest

structure Directive where
  flags : Chars
  width : Option Nat
  precision : Option Nat
  deriving DecidableEq, Repr

namespace Directive

def has (d : Directive) (c : Char) : Bool := d.flags.contains c

def pad (d : Directive) (s : Chars) : Chars :=
  let fill := List.replicate (d.width.getD 0 - s.length) ' '
  if d.has '-' then s ++ fill else fill ++ s

def padSigned (d : Directive) (zeros : Bool) (sign body : Chars) : Chars :=
  if zeros && d.has '0' && !d.has '-' then
    sign ++ List.replicate (d.width.getD 0 - sign.length - body.length) '0' ++ body
  else d.pad (sign ++ body)

def padNumber (d : Directive) (sign digits : Chars) : Chars :=
  let digits := if d.precision = some 0 && digits == ['0'] then [] else digits
  d.padSigned d.precision.isNone sign (List.replicate (d.precision.getD 0 - digits.length) '0' ++ digits)

def sign (d : Directive) (negative : Bool) : Chars :=
  if negative then ['-'] else if d.has '+' then ['+'] else if d.has ' ' then [' '] else []

def signed (d : Directive) (n : Int) : Chars := d.padNumber (d.sign (n < 0)) (Nat.toDigits 10 n.natAbs)

/-- A number without a sign; negative ones wrap around at 64 bits. -/
def unsigned (d : Directive) (letter : Char) (n : Int) : Chars :=
  let n := (n % Nat.pow 2 64).toNat
  match letter with
  | 'o' =>
    let digits := if d.precision = some 0 && n = 0 then [] else Nat.toDigits 8 n
    let digits := List.replicate (d.precision.getD 0 - digits.length) '0' ++ digits
    let digits := if d.has '#' && digits.head? != some '0' then '0' :: digits else digits
    d.padSigned d.precision.isNone [] digits
  | 'x' => d.padNumber (if d.has '#' && n ≠ 0 then ['0', 'x'] else []) (Nat.toDigits 16 n)
  | 'X' => d.padNumber (if d.has '#' && n ≠ 0 then ['0', 'X'] else []) ((Nat.toDigits 16 n).map Char.toUpper)
  | _ => d.padNumber [] (Nat.toDigits 10 n)

def real (d : Directive) (letter : Char) (x : Binary64) : Chars :=
  let lower := letter.toLower
  let body := x.write lower d.precision (d.has '#')
  let start := d.sign x.isNegative ++ if lower == 'a' && x.isFinite then ['0', 'x'] else []
  let s := d.padSigned x.isFinite start body
  if letter.isUpper then s.map Char.toUpper else s

end Directive

inductive NumberProblem where
  | missing
  | trailing
  | outOfRange
  deriving DecidableEq, Repr

def NumberProblem.message : NumberProblem → String
  | missing => "expected numeric value"
  | trailing => "not completely converted"
  | outOfRange => "Numerical result out of range"

structure Printing where
  pieces : List Chars
  problems : List Chars
  failed : Bool
  abandoned : Bool
  stopped : Bool
  arguments : List Chars
  deriving DecidableEq, Repr

abbrev Printer := StateM Printing

def put (s : Chars) : Printer Unit := modify fun p => { p with pieces := s :: p.pieces }

def complain (problem : Chars) : Printer Unit :=
  modify fun p => { p with problems := p.problems ++ [problem], failed := true }

def argument? : Printer (Option Chars) := do
  match (← get).arguments with
  | [] => pure none
  | a :: rest =>
    modify fun p => { p with arguments := rest }
    pure (some a)

def abandon (problem : Chars) : Printer Unit := do
  complain problem
  modify fun p => { p with stopped := true, abandoned := true }

def check (a rest : Chars) (found outOfRange : Bool) : Printer Unit := do
  let problem := if !found && !a.isEmpty then some NumberProblem.missing
    else if !rest.isEmpty then some .trailing
    else if outOfRange then some .outOfRange
    else none
  match problem with
  | some e => complain (a ++ ": ".toList ++ e.message.toList)
  | none => pure ()

/-- Takes a whole number. A quote in front stands for the number of the character behind it. -/
def numberArgument (signed : Bool) : Printer Int := do
  match ← argument? with
  | none => pure 0
  | some a =>
    match a with
    | '"' :: rest | '\'' :: rest => pure (rest.head?.map Char.toNat |>.getD 0)
    | _ =>
      let n := LeadingNumber.read 0 a
      let value := if signed then LeadingNumber.clamp n.value
        else if n.value.natAbs < Nat.pow 2 64 then n.value else (Nat.pow 2 64 : Int) - 1
      check a n.rest n.found (value ≠ n.value)
      pure value

def realArgument : Printer Binary64 := do
  match ← argument? with
  | none => pure (.finite false 0 (-1074))
  | some a =>
    match a with
    | '"' :: rest | '\'' :: rest => pure (.finite false (rest.head?.map Char.toNat |>.getD 0) 0)
    | _ =>
      let n := Binary64.read a
      check a n.rest n.found n.outOfRange
      pure n.value

def size (s : Chars) : Printer (Option Int × Chars) := do
  match s with
  | '*' :: rest => return (some (Int.bmod (← numberArgument true) (Nat.pow 2 32)), rest)
  | _ =>
    let digits := s.takeWhile Char.isDigit
    if digits.isEmpty then pure (none, s)
    else pure (some (Chars.digits 10 0 digits).1, s.drop digits.length)

def print (d : Directive) (text : Chars) (letter : Char) : Printer Unit := do
  match letter with
  | 's' =>
    let a := (← argument?).getD []
    put (d.pad ((d.precision.map a.take).getD a))
  | 'b' =>
    let a := (← argument?).getD []
    let (a, stop) := unescape [] (a.length + 1) a
    put (d.pad ((d.precision.map a.take).getD a))
    if stop then modify fun p => { p with stopped := true }
  | 'c' =>
    let a := (← argument?).getD []
    put (d.pad [a.head?.getD '\x00'])
  | 'd' | 'i' => put (d.signed (← numberArgument true))
  | 'o' | 'u' | 'x' | 'X' => put (d.unsigned letter (← numberArgument false))
  | 'a' | 'A' | 'e' | 'E' | 'f' | 'F' | 'g' | 'G' => put (d.real letter (← realArgument))
  | _ => abandon ('%' :: text ++ ": invalid directive".toList)

def directive (s : Chars) : Printer Chars := do
  let flags := s.takeWhile fun c => "#-+ 0".toList.contains c
  let (width, rest) ← size (s.drop flags.length)
  let (precision, rest) ← match rest with
    | '.' :: rest => do
      let (n, rest) ← size rest
      pure (some (n.getD 0), rest)
    | _ => pure (none, rest)
  let flags := match width with
    | some n => if n < 0 then '-' :: flags else flags
    | none => flags
  let precision := precision.bind fun n => if n < 0 then none else some n.toNat
  match rest with
  | [] =>
    abandon "missing format character".toList
    pure []
  | letter :: rest =>
    print ⟨flags, width.map Int.natAbs, precision⟩ (s.take (s.length - rest.length)) letter
    pure rest

def pass : Nat → Chars → Printer Unit
  | 0, _ => pure ()
  | fuel + 1, s => do
    if (← get).stopped then pure ()
    else
      match s with
      | [] => pure ()
      | '%' :: '%' :: rest =>
        put ['%']
        pass fuel rest
      | '%' :: rest => pass fuel (← directive rest)
      | '\\' :: rest =>
        let (c, rest) := escape rest
        put [c]
        pass fuel rest
      | c :: rest =>
        put [c]
        pass fuel rest

/-- Prints the format as long as it uses up arguments and some are left. -/
def passes (format : Chars) : Nat → Printer Unit
  | 0 => pure ()
  | fuel + 1 => do
    let before := (← get).arguments.length
    pass (format.length + 1) format
    let p ← get
    if !p.stopped && !p.arguments.isEmpty && p.arguments.length < before then passes format fuel

def run (format : Chars) (arguments : List Chars) : Printing :=
  ((passes format (arguments.length + 1)).run ⟨[], [], false, false, false, arguments⟩).2

def Printing.text (p : Printing) : Chars := p.pieces.foldl (fun acc s => s ++ acc) []

end ToolPipeline.Shell.Format
