set_option autoImplicit false

/-!
Reading strings, keys, numbers and dates. Only the content of strings is kept; of the other scalars just
the form is checked. Every reader returns the characters it leaves.
-/

namespace ToolPipeline.Toml

abbrev Problem := String

def isSpace (c : Char) : Bool := c == ' ' || c == '\t'

def dropSpaces (s : List Char) : List Char := s.dropWhile isSpace

def isPrintable (c : Char) : Bool := c == '\t' || (0x20 ≤ c.toNat && c.toNat ≤ 0x7E) || 0x80 ≤ c.toNat

def newline? : List Char → Option (List Char)
  | '\n' :: s => some s
  | '\r' :: '\n' :: s => some s
  | _ => none

def hexValue? (c : Char) : Option Nat :=
  if '0' ≤ c && c ≤ '9' then some (c.toNat - 48)
  else if 'a' ≤ c && c ≤ 'f' then some (c.toNat - 87)
  else if 'A' ≤ c && c ≤ 'F' then some (c.toNat - 55)
  else none

def hexNumber? (s : List Char) : Option Nat :=
  s.foldl (fun n c => do pure ((← n) * 16 + (← hexValue? c))) (some 0)

def escape? : List Char → Option (Char × Nat)
  | 'b' :: _ => some ('\x08', 1)
  | 't' :: _ => some ('\t', 1)
  | 'n' :: _ => some ('\n', 1)
  | 'f' :: _ => some ('\x0c', 1)
  | 'r' :: _ => some ('\r', 1)
  | '"' :: _ => some ('"', 1)
  | '\\' :: _ => some ('\\', 1)
  | 'u' :: s => codePoint? 4 s
  | 'U' :: s => codePoint? 8 s
  | _ => none
where
  codePoint? (n : Nat) (s : List Char) : Option (Char × Nat) := do
    if s.length < n then none
    else
      let v ← hexNumber? (s.take n)
      if v.isValidChar then pure (Char.ofNat v, n + 1) else none

def readLine (quote : Char) (text : List Char) (skip : Nat) :
    List Char → Except Problem (String × List Char)
  | [] => .error "open string"
  | c :: s =>
    if 0 < skip then readLine quote text (skip - 1) s
    else if c == quote then .ok (String.ofList text.reverse, s)
    else if quote == '"' && c == '\\' then
      match escape? s with
      | some (d, n) => readLine quote (d :: text) n s
      | none => .error "unknown escape"
    else if isPrintable c then readLine quote (c :: text) 0 s
    else .error "control character"

def countQuotes (quote : Char) (s : List Char) : Nat := (s.takeWhile (· == quote)).length

def endsLine (s : List Char) : Bool := (newline? (dropSpaces s)).isSome

/-- Goes on with a string of several lines. With `joining` spaces and line breaks are left out, as behind
a backslash at the end of a line. -/
def readLines (quote : Char) (text : List Char) (joining : Bool) (skip : Nat) :
    List Char → Except Problem (String × List Char)
  | [] => .error "open string"
  | c :: s =>
    if 0 < skip then readLines quote text joining (skip - 1) s
    else if (newline? (c :: s)).isSome then
      readLines quote (if joining then text else '\n' :: text) joining (if c == '\r' then 1 else 0) s
    else if joining && isSpace c then readLines quote text true 0 s
    else if c == quote then
      let n := countQuotes quote (c :: s)
      if n < 3 then readLines quote (c :: text) false 0 s
      else if n ≤ 5 then
        .ok (String.ofList (List.replicate (n - 3) quote ++ text).reverse, (c :: s).drop n)
      else .ok (String.ofList (quote :: quote :: text).reverse, (c :: s).drop 5)
    else if quote == '"' && c == '\\' then
      if endsLine s then readLines quote text true 0 s
      else
        match escape? s with
        | some (d, n) => readLines quote (d :: text) false n s
        | none => .error "unknown escape"
    else if isPrintable c then readLines quote (c :: text) false 0 s
    else .error "control character"

/-- Reads a string that starts with a quote. A line break directly behind three quotes is left out. -/
def readString (quote : Char) (s : List Char) : Except Problem (String × List Char) :=
  if countQuotes quote s < 3 then readLine quote [] 0 (s.drop 1)
  else
    let body := s.drop 3
    readLines quote [] false 0 ((newline? body).getD body)

def isBareKeyChar (c : Char) : Bool := c.isAlphanum || c == '_' || c == '-'

def readKeyPart (s : List Char) : Except Problem (String × List Char) :=
  match s with
  | '"' :: rest => readLine '"' [] 0 rest
  | '\'' :: rest => readLine '\'' [] 0 rest
  | _ =>
    let key := s.takeWhile isBareKeyChar
    if key.isEmpty then .error "no key" else .ok (String.ofList key, s.dropWhile isBareKeyChar)

/-- The number of parts that a key may have, and of collections that may lie in each other. -/
def depthLimit : Nat := 79

def readKey : Nat → List Char → Except Problem (List String × List Char)
  | 0, _ => .error "too deep"
  | fuel + 1, s => do
    let (part, rest) ← readKeyPart (dropSpaces s)
    match dropSpaces rest with
    | '.' :: rest =>
      let (parts, rest) ← readKey fuel rest
      pure (part :: parts, rest)
    | rest => pure ([part], rest)

/-! Numbers and dates. -/

def areDigits (digit : Char → Bool) (s : List Char) : Bool :=
  match s with
  | [] => false
  | c :: s => digit c && go s
where
  go : List Char → Bool
    | [] => true
    | '_' :: c :: s => digit c && go s
    | c :: s => digit c && go s

def digitsValue (s : List Char) : Nat :=
  s.foldl (fun n c => if c == '_' then n else n * 10 + (c.toNat - 48)) 0

def valueInBase (base : Nat) (s : List Char) : Nat :=
  s.foldl (fun n c => if c == '_' then n else n * base + (hexValue? c).getD 0) 0

def dropSign : List Char → List Char
  | '+' :: s => s
  | '-' :: s => s
  | s => s

def isDecimal (s : List Char) : Bool := areDigits Char.isDigit s && (s.length == 1 || s.head? != some '0')

def isInBase (base : Nat) (digit : Char → Bool) (s : List Char) : Bool :=
  areDigits digit s && valueInBase base s < Nat.pow 2 63

def isInteger (s : List Char) : Bool :=
  match s with
  | '0' :: 'x' :: d => isInBase 16 (fun c => (hexValue? c).isSome) d
  | '0' :: 'o' :: d => isInBase 8 (fun c => '0' ≤ c && c ≤ '7') d
  | '0' :: 'b' :: d => isInBase 2 (fun c => c == '0' || c == '1') d
  | _ =>
    let digits := dropSign s
    isDecimal digits && digitsValue digits < Nat.pow 2 63 + (if s.head? == some '-' then 1 else 0)

/-- Whether a decimal number is too large for a floating-point one; `fraction` are the digits behind its
point and `exponent` tells a power of ten. -/
def isOverflow (whole fraction : List Char) (exponent : Int) : Bool :=
  let digits := (whole ++ fraction).filter (· != '_')
  let m := digitsValue digits
  let e := exponent - ((fraction.filter (· != '_')).length : Int)
  if m = 0 || e < 0 then Nat.pow 2 1024 - Nat.pow 2 970 ≤ m / Nat.pow 10 (min (-e).toNat digits.length)
  else if 400 < e then true
  else Nat.pow 2 1024 - Nat.pow 2 970 ≤ m * Nat.pow 10 e.toNat

def isFloat (s : List Char) : Bool :=
  let body := dropSign s
  if body == "inf".toList || body == "nan".toList then true
  else
    let whole := body.takeWhile fun c => c.isDigit || c == '_'
    let rest := body.drop whole.length
    let (point, fraction, rest) :=
      match rest with
      | '.' :: r =>
        let f := r.takeWhile fun c => c.isDigit || c == '_'
        (true, f, r.drop f.length)
      | r => (false, [], r)
    let (power, exponent) :=
      match rest with
      | c :: r => (c == 'e' || c == 'E', r)
      | [] => (false, [])
    let exponentValue : Int :=
      if exponent.head? == some '-' then -digitsValue (dropSign exponent) else digitsValue (dropSign exponent)
    isDecimal whole && (point || power) && (!point || areDigits Char.isDigit fraction) &&
      (rest.isEmpty || (power && areDigits Char.isDigit (dropSign exponent))) &&
      (s.head? == some '-' || !isOverflow whole fraction exponentValue)

def fixedNumber? (n : Nat) (s : List Char) : Option (Nat × List Char) :=
  let d := s.take n
  if d.length = n && d.all Char.isDigit then some (digitsValue d, s.drop n) else none

def isLeapYear (y : Nat) : Bool := y % 4 == 0 && (y % 100 != 0 || y % 400 == 0)

def daysInMonth (y m : Nat) : Nat :=
  if m = 2 then (if isLeapYear y then 29 else 28)
  else if m = 4 || m = 6 || m = 9 || m = 11 then 30
  else 31

def expectChar (c : Char) : List Char → Option (List Char)
  | d :: s => if d == c then some s else none
  | [] => none

def date? (s : List Char) : Option (List Char) := do
  let (y, s) ← fixedNumber? 4 s
  let (m, s) ← fixedNumber? 2 (← expectChar '-' s)
  let (d, s) ← fixedNumber? 2 (← expectChar '-' s)
  if 1 ≤ m && m ≤ 12 && 1 ≤ d && d ≤ daysInMonth y m then some s else none

def hoursMinutes? (s : List Char) : Option (List Char) := do
  let (h, s) ← fixedNumber? 2 s
  let (m, s) ← fixedNumber? 2 (← expectChar ':' s)
  if h < 24 && m < 60 then some s else none

def time? (s : List Char) : Option (List Char) := do
  let s ← hoursMinutes? s
  let (sec, s) ← fixedNumber? 2 (← expectChar ':' s)
  if 60 < sec then none
  else
    match s with
    | '.' :: r =>
      let f := r.takeWhile Char.isDigit
      if f.isEmpty then none else some (r.drop f.length)
    | _ => some s

def isOffset (s : List Char) : Bool :=
  match s with
  | [] => true
  | ['Z'] | ['z'] => true
  | '+' :: r | '-' :: r => hoursMinutes? r == some []
  | _ => false

def isDateTime (s : List Char) : Bool :=
  match date? s with
  | none => time? s == some []
  | some [] => true
  | some (c :: r) =>
    (c == 'T' || c == 't' || c == ' ') &&
      (match time? r with
        | some r => isOffset r
        | none => false)

def isScalarChar (c : Char) : Bool :=
  c.isAlphanum || c == '_' || c == '+' || c == '-' || c == '.' || c == ':'

def startsTime : List Char → Bool
  | a :: b :: ':' :: _ => a.isDigit && b.isDigit
  | _ => false

/-- Cuts off the text of a scalar. A date takes a time behind a single space with it. -/
def takeScalar (s : List Char) : List Char × List Char :=
  let word := s.takeWhile isScalarChar
  let rest := s.dropWhile isScalarChar
  match date? word == some [], rest with
  | true, ' ' :: r =>
    if startsTime r then
      let time := r.takeWhile isScalarChar
      (word ++ ' ' :: time, r.drop time.length)
    else (word, rest)
  | _, _ => (word, rest)

def readScalar (s : List Char) : Except Problem (List Char) :=
  let (word, rest) := takeScalar s
  if word == "true".toList || word == "false".toList || isInteger word || isFloat word || isDateTime word then
    .ok rest
  else .error "no value"

end ToolPipeline.Toml
