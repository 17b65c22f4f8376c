import ToolPipeline.Shell.Chars

set_option autoImplicit false

/-!
Numbers of 64 bits with a binary point: reading them from text and writing them with exact digits. A number is
rounded to the nearest one that has 53 binary digits, and of two to the even one.
-/

namespace ToolPipeline.Shell

inductive Binary64 where
  | nan (negative : Bool)
  | infinity (negative : Bool)
  | finite (negative : Bool) (mantissa : Nat) (exponent : Int)
  deriving DecidableEq, Repr

namespace Binary64

def roundQuotient (n d : Nat) : Nat :=
  let q := n / d
  let r := n % d
  if d < 2 * r || (d == 2 * r && q % 2 == 1) then q + 1 else q

def scaled (n d base : Nat) (power : Int) : Nat × Nat :=
  if 0 ≤ power then (n * Nat.pow base power.toNat, d) else (n, d * Nat.pow base (-power).toNat)

/-- The number nearest to a positive fraction. The flag tells whether it is out of range: too large, or too
small to be kept with all its digits. -/
def ofFraction (negative : Bool) (n d : Nat) : Binary64 × Bool :=
  let guess : Int := (Nat.log2 n : Int) - Nat.log2 d - 52
  let (a, b) := scaled n d 2 (-guess)
  let exponent := max (-1074) (if a < b * Nat.pow 2 52 then guess - 1 else if b * Nat.pow 2 53 ≤ a then guess + 1 else guess)
  let (a, b) := scaled n d 2 (-exponent)
  let m := roundQuotient a b
  let (m, exponent) := if m = Nat.pow 2 53 then (Nat.pow 2 52, exponent + 1) else (m, exponent)
  if 971 < exponent then (infinity negative, true)
  else (finite negative m exponent, m < Nat.pow 2 52 && a % b ≠ 0)

structure Reading where
  value : Binary64
  rest : Chars
  found : Bool
  outOfRange : Bool
  deriving DecidableEq, Repr

def pointedDigits (base : Nat) (s : Chars) : Nat × Nat × Nat × Chars :=
  let (whole, rest) := Chars.digits base 0 s
  let wholeCount := s.length - rest.length
  match rest with
  | '.' :: fraction =>
    let (all, behind) := Chars.digits base whole fraction
    let count := fraction.length - behind.length
    if wholeCount + count = 0 then (0, 0, 0, s) else (all, count, wholeCount + count, behind)
  | _ => (whole, 0, wholeCount, rest)

def exponent (letters : Chars) (s : Chars) : Int × Chars :=
  match s with
  | c :: rest =>
    let n := LeadingNumber.read 10 rest
    if letters.contains c && n.found && !(rest.head?.any Chars.isSpace) then (n.value, n.rest) else (0, s)
  | [] => (0, s)

/-- A number with a power of ten or two; far out of range the power is not carried out. -/
def ofDigits (negative : Bool) (digits base : Nat) (power : Int) : Binary64 × Bool :=
  if digits = 0 then (finite negative 0 (-1074), false)
  else
    let size : Int := (Nat.toDigits base digits).length + power
    let bound : Int := if base = 10 then 400 else 1200
    if bound < size then (infinity negative, true)
    else if size < -bound then (finite negative 0 (-1074), true)
    else
      let (n, d) := scaled digits 1 base power
      ofFraction negative n d

def isCaselessPrefix (word : String) (s : Chars) : Bool :=
  word.toList.isPrefixOf ((s.take word.length).map Char.toLower)

/-- Reads a number with an optional sign behind blanks: decimal digits, digits of base sixteen behind a zero and
an x, or the words for what is no finite number. -/
def read (s : Chars) : Reading :=
  let t := s.dropWhile Chars.isSpace
  let (negative, t) := match t with
    | '-' :: rest => (true, rest)
    | '+' :: rest => (false, rest)
    | _ => (false, t)
  if isCaselessPrefix "infinity" t then ⟨infinity negative, t.drop 8, true, false⟩
  else if isCaselessPrefix "inf" t then ⟨infinity negative, t.drop 3, true, false⟩
  else if isCaselessPrefix "nan" t then
    let rest := t.drop 3
    let inner := (rest.drop 1).takeWhile Chars.isNameChar
    let rest := match rest.head?, rest.drop (inner.length + 1) with
      | some '(', ')' :: behind => behind
      | _, _ => rest
    ⟨nan negative, rest, true, false⟩
  else
    let hexadecimal := match t with
      | '0' :: x :: rest =>
        let (digits, behind, count, rest) := pointedDigits 16 rest
        if (x == 'x' || x == 'X') && count ≠ 0 then some (digits, behind, rest) else none
      | _ => none
    match hexadecimal with
    | some (digits, behind, rest) =>
      let (power, rest) := exponent ['p', 'P'] rest
      let power := power - 4 * (behind : Int)
      let (value, outOfRange) := if digits = 0 then ofDigits negative 0 2 0
        else if 5000 < power + 4 * (Nat.toDigits 16 digits).length then (infinity negative, true)
        else if power < -5000 - 4 * ((Nat.toDigits 16 digits).length : Int) then (finite negative 0 (-1074), true)
        else
          let (n, d) := scaled digits 1 2 power
          ofFraction negative n d
      ⟨value, rest, true, outOfRange⟩
    | none =>
      let (digits, behind, count, rest) := pointedDigits 10 t
      if count = 0 then ⟨finite false 0 (-1074), s, false, false⟩
      else
        let (power, rest) := exponent ['e', 'E'] rest
        let (value, outOfRange) := ofDigits negative digits 10 (power - behind)
        ⟨value, rest, true, outOfRange⟩

def isNegative : Binary64 → Bool
  | nan negative | infinity negative | finite negative .. => negative

def pointed (places : Nat) (keepsPoint : Bool) (n : Nat) : Chars :=
  let digits := Nat.toDigits 10 n
  let digits := List.replicate (places + 1 - digits.length) '0' ++ digits
  let whole := digits.take (digits.length - places)
  let fraction := digits.drop (digits.length - places)
  if fraction.isEmpty then (if keepsPoint then whole ++ ['.'] else whole) else whole ++ '.' :: fraction

def fixed (mantissa : Nat) (exponent : Int) (places : Nat) (keepsPoint : Bool) : Chars :=
  let (n, d) := scaled (mantissa * Nat.pow 10 places) 1 2 exponent
  pointed places keepsPoint (roundQuotient n d)

/-- The first digits of a positive number, one and `places` more, and the power of ten of the first one. -/
def leadingDigits (mantissa : Nat) (exponent : Int) (places : Nat) : Nat × Int :=
  let (n, d) := scaled (mantissa * Nat.pow 10 400) 1 2 exponent
  let power : Int := ((Nat.toDigits 10 (n / d)).length : Int) - 401
  let (a, b) := scaled mantissa 1 2 exponent
  let (a, b) := scaled a b 10 (places - power)
  let digits := roundQuotient a b
  if digits = Nat.pow 10 (places + 1) then (Nat.pow 10 places, power + 1) else (digits, power)

def writePower (letter : Char) (least : Nat) (power : Int) : Chars :=
  let digits := Nat.toDigits 10 power.natAbs
  letter :: (if power < 0 then '-' else '+') :: List.replicate (least - digits.length) '0' ++ digits

def scientific (mantissa : Nat) (exponent : Int) (places : Nat) (keepsPoint : Bool) : Chars :=
  let (digits, power) := if mantissa = 0 then (0, 0) else leadingDigits mantissa exponent places
  pointed places keepsPoint digits ++ writePower 'e' 2 power

def dropZeros (s : Chars) : Chars :=
  let (number, power) := (s.takeWhile (· != 'e'), s.dropWhile (· != 'e'))
  if number.contains '.' then
    let kept := (number.reverse.dropWhile (· == '0'))
    (if kept.head? == some '.' then kept.drop 1 else kept).reverse ++ power
  else s

/-- A finite number with so many digits that count, in the shorter one of the two forms. -/
def general (mantissa : Nat) (exponent : Int) (digits : Nat) (keepsPoint : Bool) : Chars :=
  let places := max digits 1 - 1
  let power := if mantissa = 0 then 0 else (leadingDigits mantissa exponent places).2
  let s := if power < -4 || (places : Int) < power then scientific mantissa exponent places keepsPoint
    else fixed mantissa exponent ((places : Int) - power).toNat keepsPoint
  if keepsPoint then s else dropZeros s

def hexadecimal (mantissa : Nat) (exponent : Int) (places : Option Nat) (keepsPoint : Bool) : Chars :=
  let (lead, power) := if mantissa = 0 then (0, 0)
    else if mantissa < Nat.pow 2 52 && exponent = -1074 then (mantissa, (-1022 : Int))
    else
      let shift := 52 - Nat.log2 mantissa
      (mantissa * Nat.pow 2 shift, exponent - shift + 52)
  let (n, count) := match places with
    | some p => if p < 13 then (roundQuotient lead (Nat.pow 16 (13 - p)), p) else (lead * Nat.pow 16 (p - 13), p)
    | none => (lead, 13)
  let digits := Nat.toDigits 16 n
  let digits := List.replicate (count + 1 - digits.length) '0' ++ digits
  let fraction := digits.drop (digits.length - count)
  let fraction := if places.isNone then (fraction.reverse.dropWhile (· == '0')).reverse else fraction
  let whole := digits.take (digits.length - count)
  whole ++ (if fraction.isEmpty && !keepsPoint then [] else '.' :: fraction) ++ writePower 'p' 1 power

def write (letter : Char) (precision : Option Nat) (keepsPoint : Bool) (x : Binary64) : Chars :=
  match x with
  | nan _ => "nan".toList
  | infinity _ => "inf".toList
  | finite _ m e =>
    match letter with
    | 'f' => fixed m e (precision.getD 6) keepsPoint
    | 'e' => scientific m e (precision.getD 6) keepsPoint
    | 'g' => general m e (precision.getD 6) keepsPoint
    | _ => hexadecimal m e precision keepsPoint

def isFinite : Binary64 → Bool
  | finite .. => true
  | _ => false

end Binary64

end ToolPipeline.Shell
