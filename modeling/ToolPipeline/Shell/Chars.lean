import ToolPipeline.Text.Utf8

set_option autoImplicit false

/-!
Text as a shell sees it: a shell does not know about encodings, so each character stands for one byte.
-/

namespace ToolPipeline.Shell

/-- Text in which each character stands for one byte. -/
abbrev Chars := List Char

namespace Chars

def ofBytes (b : Bytes) : Chars := b.map fun b => Char.ofNat b.toNat

def toBytes (s : Chars) : Bytes := s.map fun c => c.toNat.toUInt8

def ofString (s : String) : Chars := ofBytes (Text.encode s)

def toText (s : Chars) : String := Text.decodeLossy (toBytes s)

def ofNat (n : Nat) : Chars := Nat.toDigits 10 n

def ofInt (n : Int) : Chars := if n < 0 then '-' :: ofNat n.natAbs else ofNat n.natAbs

def isSpace (c : Char) : Bool := c == ' ' || (9 ≤ c.toNat && c.toNat ≤ 13)

def isPrintable (c : Char) : Bool := 32 ≤ c.toNat && c.toNat < 127

def isNameStart (c : Char) : Bool := c.isAlpha || c == '_'

def isNameChar (c : Char) : Bool := c.isAlphanum || c == '_'

def isName (s : Chars) : Bool :=
  match s with
  | c :: _ => isNameStart c && s.all isNameChar
  | [] => false

def assignment? (s : Chars) : Option (Chars × Chars) :=
  let name := s.takeWhile isNameChar
  match s.drop name.length with
  | '=' :: value => if isName name then some (name, value) else none
  | _ => none

def splitOn (separator : Char) (s : Chars) : List Chars :=
  s.foldr (fun c parts =>
    if c == separator then [] :: parts
    else
      match parts with
      | p :: rest => (c :: p) :: rest
      | [] => [[c]]) [[]]

def join (separator : Chars) (parts : List Chars) : Chars := List.intercalate separator parts

def lessOrEqual : Chars → Chars → Bool
  | [], _ => true
  | _ :: _, [] => false
  | a :: s, b :: t => a < b || (a == b && lessOrEqual s t)

def digit? (c : Char) : Option Nat :=
  if c.isDigit then some (c.toNat - 48)
  else if c.isLower then some (c.toNat - 87)
  else if c.isUpper then some (c.toNat - 55)
  else none

def digits (base : Nat) (acc : Nat) : Chars → Nat × Chars
  | [] => (acc, [])
  | c :: s =>
    match digit? c with
    | some d => if d < base then digits base (acc * base + d) s else (acc, c :: s)
    | none => (acc, c :: s)

end Chars

structure LeadingNumber where
  value : Int
  /-- The text behind the number; the whole text where there is no number. -/
  rest : Chars
  found : Bool
  deriving DecidableEq, Repr

namespace LeadingNumber

/-- The digits of a number in a base; base zero is decided by the digits themselves, where a zero in front
stands for base eight and with an x for base sixteen. -/
def magnitude? (base : Nat) (s : Chars) : Option (Nat × Chars) :=
  let plain (base : Nat) (s : Chars) : Option (Nat × Chars) :=
    match s with
    | c :: _ => if ((Chars.digit? c).any fun d => d < base) then some (Chars.digits base 0 s) else none
    | [] => none
  let hexadecimal (rest : Chars) : Option (Nat × Chars) :=
    match plain 16 rest with
    | some p => some p
    | none => plain 8 s
  match s with
  | '0' :: 'x' :: rest | '0' :: 'X' :: rest => if base = 0 || base = 16 then hexadecimal rest else plain base s
  | '0' :: _ => plain (if base = 0 then 8 else base) s
  | _ => plain (if base = 0 then 10 else base) s

def read (base : Nat) (s : Chars) : LeadingNumber :=
  let t := s.dropWhile Chars.isSpace
  let (negative, t) := match t with
    | '-' :: rest => (true, rest)
    | '+' :: rest => (false, rest)
    | _ => (false, t)
  match magnitude? base t with
  | some (n, rest) => ⟨if negative then -(n : Int) else n, rest, true⟩
  | none => ⟨0, s, false⟩

def least : Int := -Nat.pow 2 63

def greatest : Int := (Nat.pow 2 63 : Int) - 1

def wrap (n : Int) : Int := n.bmod (Nat.pow 2 64)

def clamp (n : Int) : Int := max least (min n greatest)

/-- The number that a text is, with blanks around it. In the base that digits decide, a text without a number
counts as zero. -/
def whole? (base : Nat) (s : Chars) : Option Int :=
  let n := read base s
  if !n.found && base ≠ 0 then none
  else if n.value < least || greatest < n.value then none
  else if n.rest.all Chars.isSpace then some n.value
  else none

def count? (s : Chars) : Option Nat :=
  match whole? 10 s with
  | some n => if 0 ≤ n && n < Nat.pow 2 31 then some n.toNat else none
  | none => none

end LeadingNumber

end ToolPipeline.Shell
