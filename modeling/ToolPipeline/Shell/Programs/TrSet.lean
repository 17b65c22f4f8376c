import ToolPipeline.Shell.Pattern
import ToolPipeline.Shell.Quoting

set_option autoImplicit false

/-!
Ordered sets of characters as texts describe them: single characters, ranges, named sets, repetitions and
characters that count as equivalent to one.
-/

namespace ToolPipeline.Shell

abbrev EscapedChar := Char × Bool

inductive TrElement where
  | single (c : Char)
  | range (first last : Char)
  | named (s : NamedSet)
  | equivalent (c : Char)
  /-- A character several times; without a count as often as it is needed. -/
  | repeated (c : Char) (count : Option Nat)
  | members (l : List Char)
  deriving DecidableEq, Repr

abbrev TrSet := List TrElement

inductive TrSetProblem where
  | reversed (first last : Char)
  | unknownSet (name : Chars)
  | noName
  | noEquivalent
  | manyEquivalents (s : Chars)
  | badCount (s : Chars)
  deriving DecidableEq, Repr

namespace TrSetProblem

def show1 (c : Char) : Chars := if c == '\\' then ['\\'] else (Quoting.escape? c).getD [c]

def showEnd (c : Char) : Chars :=
  if Chars.isPrintable c then [c] else Quoting.octal c

def message : TrSetProblem → Chars
  | reversed first last =>
    "range-endpoints of '".toList ++ showEnd first ++ ['-'] ++ showEnd last ++
      "' are in reverse collating sequence order".toList
  | unknownSet name => "invalid character class ".toList ++ Quoting.value (name.flatMap show1)
  | noName => "missing character class name '[::]'".toList
  | noEquivalent => "missing equivalence class character '[==]'".toList
  | manyEquivalents s => s.flatMap show1 ++ ": equivalence class operand must be a single character".toList
  | badCount s => "invalid repeat count ".toList ++ Quoting.value (s.flatMap show1) ++ " in [c*n] construct".toList

end TrSetProblem

namespace TrSet

def octal? (c : Char) : Option Nat := (Chars.digit? c).filter (· < 8)

def letter (c : Char) : Char :=
  match c with
  | 'a' => '\x07'
  | 'b' => '\x08'
  | 'f' => '\x0c'
  | 'n' => '\n'
  | 'r' => '\r'
  | 't' => '\t'
  | 'v' => '\x0b'
  | _ => c

/-- The number with up to three digits behind a backslash, the rest, and a warning if the third digit does not
count because the number would be too large. -/
def octalNumber (a : Nat) (s : Chars) : Nat × Chars × Option Chars :=
  match s with
  | [] => (a, [], none)
  | d :: rest =>
    match octal? d with
    | none => (a, s, none)
    | some b =>
      let two := 8 * a + b
      match rest with
      | [] => (two, [], none)
      | e :: behind =>
        match octal? e with
        | none => (two, rest, none)
        | some c =>
          if 8 * two + c < 256 then (8 * two + c, behind, none)
          else
            let first := Nat.digitChar a
            (two, rest, some ("warning: the ambiguous octal escape \\".toList ++ [first, d, e] ++
              " is being\n\tinterpreted as the 2-byte sequence \\0".toList ++ [first, d] ++ ", ".toList ++ [e]))

def unescape : Nat → Chars → List EscapedChar × List Chars
  | 0, _ => ([], [])
  | fuel + 1, s =>
    match s with
    | [] => ([], [])
    | ['\\'] => ([('\\', false)], ["warning: an unescaped backslash at end of string is not portable".toList])
    | '\\' :: c :: rest =>
      match octal? c with
      | none =>
        let r := unescape fuel rest
        ((letter c, true) :: r.1, r.2)
      | some a =>
        let (n, rest, warning) := octalNumber a rest
        let r := unescape fuel rest
        ((Char.ofNat n, true) :: r.1, warning.toList ++ r.2)
    | c :: rest =>
      let r := unescape fuel rest
      ((c, false) :: r.1, r.2)

def upTo (mark : Char) (acc : Chars) : List EscapedChar → Option (Chars × List EscapedChar)
  | a :: b :: rest =>
    if a == (mark, false) && b == (']', false) then some (acc.reverse, rest) else upTo mark (a.1 :: acc) (b :: rest)
  | _ => none

def isCount (s : List EscapedChar) : Bool :=
  match s with
  | ('*', false) :: rest => (rest.dropWhile fun p => p.1.isDigit).head? == some (']', false)
  | _ => false

def countLimit : Nat := Nat.pow 2 64 - 3

def repetition? (s : List EscapedChar) : Option (Except TrSetProblem (TrElement × List EscapedChar)) :=
  match s with
  | (c, _) :: ('*', false) :: rest =>
    let inner := rest.takeWhile fun p => p.1 != ']' && !p.2
    match rest.drop inner.length with
    | (']', false) :: behind =>
      let text := inner.map (·.1)
      if text.isEmpty then some (.ok (.repeated c none, behind))
      else
        let n := LeadingNumber.read (if text.head? == some '0' then 8 else 10) text
        let isNegative := (text.dropWhile Chars.isSpace).head? == some '-'
        if !n.found || isNegative || (countLimit : Int) < n.value || !n.rest.isEmpty then
          some (.error (.badCount text))
        else some (.ok (.repeated c (if n.value = 0 then none else some n.value.toNat), behind))
    | _ => none
  | _ => none

def bracketed? (s : List EscapedChar) : Option (Except TrSetProblem (TrElement × List EscapedChar)) :=
  match s with
  | (':', false) :: rest =>
    match upTo ':' [] rest with
    | none => repetition? s
    | some (name, behind) =>
      if name.isEmpty then some (.error .noName)
      else
        match NamedSet.ofName? name with
        | some set => some (.ok (.named set, behind))
        | none => if isCount rest then repetition? s else some (.error (.unknownSet name))
  | ('=', false) :: rest =>
    match upTo '=' [] rest with
    | none => repetition? s
    | some (name, behind) =>
      match name with
      | [] => some (.error .noEquivalent)
      | [c] => some (.ok (.equivalent c, behind))
      | _ => if isCount rest then repetition? s else some (.error (.manyEquivalents name))
  | _ => repetition? s

def elements : Nat → List EscapedChar → Except TrSetProblem TrSet
  | 0, _ => .ok []
  | fuel + 1, s =>
    match s with
    | [] => .ok []
    | [a] => .ok [.single a.1]
    | [a, b] => .ok [.single a.1, .single b.1]
    | a :: b :: c :: rest =>
      let plain : Except TrSetProblem TrSet :=
        if b == ('-', false) then
          if c.1 < a.1 then .error (.reversed a.1 c.1)
          else (elements fuel rest).map fun l => .range a.1 c.1 :: l
        else (elements fuel (b :: c :: rest)).map fun l => .single a.1 :: l
      if a == ('[', false) then
        match bracketed? (b :: c :: rest) with
        | some (.ok (e, behind)) => (elements fuel behind).map fun l => e :: l
        | some (.error p) => .error p
        | none => plain
      else plain

def ofText (s : Chars) : Except TrSetProblem TrSet × List Chars :=
  let (chars, warnings) := unescape (s.length + 1) s
  (elements (chars.length + 1) chars, warnings)

def allChars : List Char := (List.range 256).map Char.ofNat

def membersOf (s : NamedSet) : List Char := allChars.filter s.contains

def charsBetween (first last : Char) : List Char :=
  (List.range (last.toNat + 1 - first.toNat)).map fun i => Char.ofNat (first.toNat + i)

/-- The number of characters that an element stands for; one that fills up counts as none. -/
def elementSize (e : TrElement) : Nat :=
  match e with
  | .single _ | .equivalent _ => 1
  | .range first last => last.toNat + 1 - first.toNat
  | .named s => (membersOf s).length
  | .repeated _ count => count.getD 0
  | .members l => l.length

def size (s : TrSet) : Nat := (s.map elementSize).foldr (· + ·) 0

def chars (s : TrSet) : List Char :=
  s.flatMap fun
    | .single c | .equivalent c => [c]
    | .range first last => charsBetween first last
    | .named set => membersOf set
    | .repeated c count => if count.getD 0 = 0 then [] else [c]
    | .members l => l

def complement (s : TrSet) : List Char :=
  let inside := chars s
  allChars.filter fun c => !inside.contains c

def takeFront : TrSet → Option (Char × Nat × TrSet)
  | [] => none
  | .single c :: rest | .equivalent c :: rest => some (c, 1, rest)
  | .range first last :: rest =>
    match charsBetween first last with
    | c :: more => some (c, 1, .members more :: rest)
    | [] => takeFront rest
  | .named set :: rest =>
    match membersOf set with
    | c :: more => some (c, 1, .members more :: rest)
    | [] => takeFront rest
  | .members (c :: more) :: rest => some (c, 1, if more.isEmpty then rest else .members more :: rest)
  | .members [] :: rest => takeFront rest
  | .repeated c count :: rest => if count.getD 0 = 0 then takeFront rest else some (c, count.getD 0, rest)

def normal : TrSet → TrSet
  | .repeated c count :: rest => if count.getD 0 = 0 then normal rest else .repeated c count :: rest
  | .members [] :: rest => normal rest
  | s => s

def letterCase? (s : TrSet) : Option NamedSet :=
  match normal s with
  | .named .lower :: _ => some .lower
  | .named .upper :: _ => some .upper
  | _ => none

def letterCount : Nat := 26

def giveBack (c : Char) (n : Nat) (s : TrSet) : TrSet := if n = 0 then s else .repeated c (some n) :: s

/-- The sizes that count for filling up, where whole cases that stand for each other count as one character;
there is no answer if a case of the second set stands for something else than a case. -/
def aligned? : Nat → (first second : TrSet) → (sizes : Nat × Nat) → Option (Nat × Nat)
  | 0, _, _, sizes => some sizes
  | fuel + 1, first, second, sizes =>
    match letterCase? second, letterCase? first with
    | some _, none => none
    | some _, some _ =>
      aligned? fuel ((normal first).drop 1) ((normal second).drop 1)
        (sizes.1 - (letterCount - 1), sizes.2 - (letterCount - 1))
    | none, _ =>
      match takeFront first, takeFront second with
      | some (a, m, first), some (b, n, second) =>
        let k := min m n
        aligned? fuel (giveBack a (m - k) first) (giveBack b (n - k) second) sizes
      | _, _ => some sizes

/-- What each character of a first set becomes; the last rule for a character counts. -/
def pairs : Nat → (first second : TrSet) → List (Char × Char)
  | 0, _, _ => []
  | fuel + 1, first, second =>
    match letterCase? second, letterCase? first with
    | some b, some a =>
      (if a = b then [] else (membersOf a).zip (membersOf b)) ++
        pairs fuel ((normal first).drop 1) ((normal second).drop 1)
    | _, _ =>
      match takeFront first, takeFront second with
      | some (a, m, first), some (b, n, second) =>
        let k := min m n
        (a, b) :: pairs fuel (giveBack a (m - k) first) (giveBack b (n - k) second)
      | _, _ => []

def steps (first second : TrSet) : Nat := 300 * (first.length + second.length + 2)

end TrSet

end ToolPipeline.Shell
