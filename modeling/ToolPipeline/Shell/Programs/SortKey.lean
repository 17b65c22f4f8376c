import ToolPipeline.Shell.Binary64
import ToolPipeline.Shell.Pattern
import ToolPipeline.Shell.Programs.Basic

set_option autoImplicit false

/-!
Keys by which lines are ordered: where they begin and end in a line, and how they are compared.
-/

namespace ToolPipeline.Shell.Program

def compareChars : Chars → Chars → Ordering
  | [], [] => .eq
  | [], _ :: _ => .lt
  | _ :: _, [] => .gt
  | a :: s, b :: t => if a == b then compareChars s t else if a < b then .lt else .gt

structure KeyOrder where
  skipsStart : Bool
  skipsEnd : Bool
  dictionary : Bool
  printing : Bool
  folds : Bool
  numeric : Bool
  general : Bool
  human : Bool
  month : Bool
  random : Bool
  version : Bool
  reverse : Bool
  deriving DecidableEq, Repr

namespace KeyOrder

def plain : KeyOrder := ⟨false, false, false, false, false, false, false, false, false, false, false, false⟩

def isDefault (o : KeyOrder) : Bool := { o with reverse := false } == plain

def conflict? (o : KeyOrder) : Option Chars :=
  let kinds := [o.numeric, o.general, o.human, o.month, o.version || o.random || o.dictionary || o.printing]
  if kinds.count true ≤ 1 then none
  else
    let letters := [(o.dictionary, 'd'), (o.folds, 'f'), (o.general, 'g'), (o.human, 'h'),
      (o.printing && !o.dictionary, 'i'), (o.month, 'M'), (o.numeric, 'n'), (o.random, 'R'), (o.version, 'V')]
    some ((letters.filter (·.1)).map (·.2))

/-- Takes a letter into account. The flags tell whether it stands at the beginning or the end of a key. -/
def add? (o : KeyOrder) (atStart atEnd : Bool) (c : Char) : Option KeyOrder :=
  match c with
  | 'b' => some { o with skipsStart := o.skipsStart || atStart, skipsEnd := o.skipsEnd || atEnd }
  | 'd' => some { o with dictionary := true }
  | 'f' => some { o with folds := true }
  | 'g' => some { o with general := true }
  | 'h' => some { o with human := true }
  | 'i' => some { o with printing := true }
  | 'M' => some { o with month := true }
  | 'n' => some { o with numeric := true }
  | 'R' => some { o with random := true }
  | 'r' => some { o with reverse := true }
  | 'V' => some { o with version := true }
  | _ => none

def addAll (o : KeyOrder) (atStart atEnd : Bool) : Chars → KeyOrder × Chars
  | [] => (o, [])
  | c :: s =>
    match o.add? atStart atEnd c with
    | some o => o.addAll atStart atEnd s
    | none => (o, c :: s)

end KeyOrder

def isKeyBlank (c : Char) : Bool := c == ' ' || c == '\t' || c == '\n'

structure Decimal where
  negative : Bool
  whole : Nat
  fraction : Chars
  rest : Chars
  deriving DecidableEq, Repr

namespace Decimal

def read (s : Chars) : Decimal :=
  let s := s.dropWhile isKeyBlank
  let (negative, s) := match s with
    | '-' :: rest => (true, rest)
    | _ => (false, s)
  let (whole, rest) := Chars.digits 10 0 s
  match rest with
  | '.' :: behind =>
    let digits := behind.takeWhile Char.isDigit
    ⟨negative, whole, (digits.reverse.dropWhile (· == '0')).reverse, behind.drop digits.length⟩
  | _ => ⟨negative, whole, [], rest⟩

def isZero (d : Decimal) : Bool := d.whole == 0 && d.fraction.isEmpty

def compare (a b : Decimal) : Ordering :=
  let size := if a.whole == b.whole then compareChars a.fraction b.fraction
    else if a.whole < b.whole then .lt else .gt
  match a.negative && !a.isZero, b.negative && !b.isZero with
  | true, true => size.swap
  | true, false => .lt
  | false, true => .gt
  | false, false => size

def unit (d : Decimal) : Int :=
  let power : Int := if d.isZero then 0 else ((d.rest.head?.bind UnitCount.unitPower?).getD 0 : Nat)
  if d.negative then -power else power

end Decimal

/-- The order of versions: runs of digits are numbers, letters stand before other characters, and a tilde before
the end. -/
def versionOrder (s : Chars) : Int :=
  match s with
  | [] => -1
  | c :: _ =>
    if c.isDigit then 0
    else if c.isAlpha then c.toNat
    else if c == '~' then -2
    else c.toNat + 256

def compareRuns (acc : Ordering) : Chars → Chars → Ordering × Chars × Chars
  | a :: s, b :: t =>
    match a.isDigit, b.isDigit with
    | true, true =>
      let acc := if acc != .eq then acc else if a == b then .eq else if a < b then .lt else .gt
      compareRuns acc s t
    | true, false => (.gt, a :: s, b :: t)
    | false, true => (.lt, a :: s, b :: t)
    | false, false => (acc, a :: s, b :: t)
  | a :: s, [] => (if a.isDigit then .gt else acc, a :: s, [])
  | [], b :: t => (if b.isDigit then .lt else acc, [], b :: t)
  | [], [] => (acc, [], [])

def compareVersionParts : Nat → Chars → Chars → Ordering
  | 0, _, _ => .eq
  | fuel + 1, s, t =>
    let opensText (s : Chars) : Bool := s.head?.any fun c => !c.isDigit
    if s.isEmpty && t.isEmpty then .eq
    else if opensText s || opensText t then
      let a := versionOrder s
      let b := versionOrder t
      if a < b then .lt else if b < a then .gt else compareVersionParts fuel (s.drop 1) (t.drop 1)
    else
      let (o, s, t) := compareRuns .eq (s.dropWhile (· == '0')) (t.dropWhile (· == '0'))
      if o != .eq then o else compareVersionParts fuel s t

def dropEndings : Nat → Chars → Chars
  | 0, s => s
  | fuel + 1, s =>
    match s with
    | '.' :: c :: rest =>
      if c.isAlpha || c == '~' then dropEndings fuel (rest.dropWhile fun c => c.isAlphanum || c == '~') else s
    | _ => s

def withoutEndings : Nat → (kept : Nat) → (all rest : Chars) → Chars
  | 0, kept, all, _ => all.take kept
  | fuel + 1, kept, all, rest =>
    match rest with
    | [] => all.take kept
    | _ :: behind => withoutEndings fuel (all.length - behind.length) all (dropEndings behind.length behind)

def compareVersions (s t : Chars) : Ordering :=
  let rank (s : Chars) : Nat :=
    if s.isEmpty then 0 else if s == ['.'] then 1 else if s == ['.', '.'] then 2
    else if s.head? == some '.' then 3 else 4
  let fuel := s.length + t.length + 1
  if rank s < rank t then .lt
  else if rank t < rank s then .gt
  else if rank s < 3 then .eq
  else
    match compareVersionParts fuel (withoutEndings fuel 0 s s) (withoutEndings fuel 0 t t) with
    | .eq => compareVersionParts fuel s t
    | o => o

def monthRank (s : Chars) : Nat :=
  let word := ((s.dropWhile isKeyBlank).take 3).map Char.toUpper
  let names := ["JAN", "FEB", "MAR", "APR", "MAY", "JUN", "JUL", "AUG", "SEP", "OCT", "NOV", "DEC"]
  match names.findIdx? fun m => m.toList == word with
  | some i => i + 1
  | none => 0

/-- Numbers in any form: what is no number comes first, then what has no value. -/
def compareGeneral (s t : Chars) : Ordering :=
  let a := Binary64.read s
  let b := Binary64.read t
  let rank (r : Binary64.Reading) : Nat :=
    if !r.found then 0
    else
      match r.value with
      | .nan _ => 1
      | .infinity true => 2
      | .finite .. => 3
      | .infinity false => 4
  if rank a ≠ rank b then compare (rank a) (rank b)
  else
    match a.value, b.value with
    | .finite n m e, .finite k l f =>
      if rank a ≠ 3 then .eq
      else
        let low := min e f
        let x : Int := m * Nat.pow 2 (e - low).toNat
        let y : Int := l * Nat.pow 2 (f - low).toNat
        compare (if n then -x else x) (if k then -y else y)
    | _, _ => .eq

namespace KeyOrder

def relevant (o : KeyOrder) (s : Chars) : Chars :=
  let s := if o.dictionary then s.filter fun c => c.isAlphanum || isKeyBlank c
    else if o.printing then s.filter Chars.isPrintable else s
  if o.folds then s.map Char.toUpper else s

def compareForward (o : KeyOrder) (s t : Chars) : Ordering :=
  let s := o.relevant s
  let t := o.relevant t
  if o.numeric then (Decimal.read s).compare (.read t)
  else if o.general then compareGeneral s t
  else if o.human then
    let a := Decimal.read s
    let b := Decimal.read t
    (compare a.unit b.unit).then (a.compare b)
  else if o.month then compare (monthRank s) (monthRank t)
  else if o.version then compareVersions s t
  else compareChars s t

def compareTexts (o : KeyOrder) (s t : Chars) : Ordering :=
  let c := o.compareForward s t
  if o.reverse then c.swap else c

end KeyOrder

structure KeyPosition where
  fields : Nat
  chars : Nat
  deriving DecidableEq, Repr

/-- A part of lines. Without a start it begins with the line, without an end it ends with the line; an end
without characters is the end of its field. -/
structure SortKey where
  start : Option KeyPosition
  stop : Option KeyPosition
  order : KeyOrder
  deriving DecidableEq, Repr

namespace SortKey

/-- Skips fields; a separator behind the last one is skipped only if `whole`. -/
def skipFields (separator : Option Char) (whole : Bool) : Nat → Chars → Chars
  | 0, s => s
  | n + 1, s =>
    if s.isEmpty then s
    else
      match separator with
      | some c =>
        let rest := s.dropWhile (· != c)
        skipFields separator whole n (if n ≠ 0 || whole then rest.drop 1 else rest)
      | none => skipFields separator whole n ((s.dropWhile isKeyBlank).dropWhile fun c => !isKeyBlank c)

def text (separator : Option Char) (k : SortKey) (line : Chars) : Chars :=
  let fromStart := match k.start with
    | none => if k.order.skipsStart then line.dropWhile isKeyBlank else line
    | some p =>
      let s := skipFields separator true p.fields line
      (if k.order.skipsStart then s.dropWhile isKeyBlank else s).drop p.chars
  match k.stop with
  | none => fromStart
  | some p =>
    let behind :=
      if p.chars = 0 then skipFields separator false (p.fields + 1) line
      else
        let s := skipFields separator true p.fields line
        (if k.order.skipsEnd then s.dropWhile isKeyBlank else s).drop p.chars
    fromStart.take (fromStart.length - behind.length)

def compareLines (separator : Option Char) : List SortKey → Chars → Chars → Ordering
  | [], _, _ => .eq
  | k :: ks, a, b =>
    match k.order.compareTexts (k.text separator a) (k.text separator b) with
    | .eq => compareLines separator ks a b
    | o => o

def badKey {α : Type} (problem : String) (s : Chars) : Except Chars α :=
  .error (problem.toList ++ ": invalid field specification ".toList ++ Quoting.value s)

def number (problem : String) (s : Chars) : Except Chars (Nat × Chars) :=
  let t := s.dropWhile Chars.isSpace
  let t := if t.head? == some '+' then t.drop 1 else t
  let (n, rest) := Chars.digits 10 0 t
  if rest.length = t.length then
    .error (problem.toList ++ ": invalid count at start of ".toList ++ Quoting.value s)
  else .ok (n, rest)

def parse (s : Chars) : Except Chars SortKey := do
  let (field, rest) ← number "invalid number at field start" s
  if field = 0 then badKey "field number is zero" s
  let (char, rest) ← match rest with
    | '.' :: rest => do
      let (n, rest) ← number "invalid number after '.'" rest
      if n = 0 then badKey "character offset is zero" s
      pure (n - 1, rest)
    | _ => pure (0, rest)
  let start := if field = 1 && char = 0 then none else some ⟨field - 1, char⟩
  let (order, rest) := KeyOrder.plain.addAll true false rest
  match rest with
  | ',' :: rest =>
    let (field, rest) ← number "invalid number after ','" rest
    if field = 0 then badKey "field number is zero" s
    let (char, rest) ← match rest with
      | '.' :: rest => number "invalid number after '.'" rest
      | _ => pure (0, rest)
    let (order, rest) := order.addAll false true rest
    if rest.isEmpty then pure ⟨start, some ⟨field - 1, char⟩, order⟩
    else badKey "stray character in field spec" s
  | [] => pure ⟨start, none, order⟩
  | _ => badKey "stray character in field spec" s

end SortKey

end ToolPipeline.Shell.Program
