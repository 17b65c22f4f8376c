import ToolPipeline.Yaml.Tag

set_option autoImplicit false

/-!
From the text of a document to its tokens.

The indentation of blocks turns into tokens that open and close collections. Text that may turn out to
be a key is remembered, since only the colon behind it shows that a key token belongs before it.
-/

namespace ToolPipeline.Yaml

structure KeyMark where
  required : Bool
  number : Nat
  line : Nat
  column : Nat
  index : Nat
  deriving DecidableEq, Repr

structure Scanner where
  tokens : List Token
  count : Nat
  indents : List Nat
  /-- The place of a possible key in the innermost flow collection, or in the block outside of them. -/
  key : Option KeyMark
  outerKeys : List (Option KeyMark)
  keyAllowed : Bool
  deriving DecidableEq, Repr

namespace Scanner

def start : Scanner := ⟨[], 0, [], none, [], true⟩

def inFlow (p : Scanner) : Bool := !p.outerKeys.isEmpty

def margin (p : Scanner) : Nat :=
  match p.indents with
  | i :: _ => i + 1
  | [] => 0

def add (p : Scanner) (t : Token) : Scanner := { p with tokens := t :: p.tokens, count := p.count + 1 }

def addAt (p : Scanner) (n : Nat) (ts : List Token) : Scanner :=
  let later := p.count - n
  { p with
    tokens := p.tokens.take later ++ ts.reverse ++ p.tokens.drop later
    count := p.count + ts.length }

def unroll (p : Scanner) (least : Nat) : Scanner :=
  if p.inFlow then p
  else
    let closed := (p.indents.takeWhile fun i => least ≤ i).length
    { p with
      tokens := List.replicate closed .blockEnd ++ p.tokens
      count := p.count + closed
      indents := p.indents.drop closed }

def isDeeper (p : Scanner) (column : Nat) : Bool := !p.inFlow && p.margin ≤ column

def roll (p : Scanner) (column : Nat) (t : Token) : Scanner :=
  if p.isDeeper column then { p.add t with indents := column :: p.indents } else p

def dropKey (p : Scanner) : Except Problem Scanner :=
  match p.key with
  | some k => if k.required then .error "a key without a colon" else .ok { p with key := none }
  | none => .ok p

def saveKey (p : Scanner) (c : Cell) : Except Problem Scanner :=
  if p.keyAllowed then do
    let q ← p.dropKey
    let required := !p.inFlow && p.margin == c.column + 1
    pure { q with key := some ⟨required, p.count, c.line, c.column, c.index⟩ }
  else .ok p

/-- Whether a key that started at the mark can no longer be a simple one: it must end on its line and
within 1024 bytes. -/
def isStale (k : KeyMark) (c : Cell) : Bool := k.line < c.line || k.index + 1024 < c.index

def dropStale (c : Cell) (k : Option KeyMark) : Except Problem (Option KeyMark) :=
  match k with
  | none => .ok none
  | some k =>
    if !isStale k c then .ok (some k)
    else if k.required then .error "a key without a colon"
    else .ok none

def dropStaleKeys (p : Scanner) (c : Cell) : Except Problem Scanner := do
  let outerKeys ← p.outerKeys.mapM (dropStale c)
  let key ← dropStale c p.key
  pure { p with key, outerKeys }

/-- Skips white space, comments and line breaks. Tabs do not count as white space where a block key
could start, and a byte-order mark may stand at the start of a line. -/
def skip (p : Scanner) (inComment : Bool) : Source → Scanner × Source
  | [] => (p, [])
  | c :: s =>
    if isBreak c.char then skip (if p.inFlow then p else { p with keyAllowed := true }) false s
    else if isEnd c.char then (p, c :: s)
    else if inComment then skip p true s
    else if c.char == '#' then skip p true s
    else if c.char == ' ' || (c.char == '\t' && (p.inFlow || !p.keyAllowed)) then skip p false s
    else if c.char == '\uFEFF' && c.column == 0 then skip p false s
    else (p, c :: s)

def openFlow (p : Scanner) (c : Cell) (t : Token) : Except Problem Scanner := do
  let q ← p.saveKey c
  pure { q.add t with key := none, outerKeys := q.key :: q.outerKeys, keyAllowed := true }

def closeFlow (p : Scanner) (t : Token) : Except Problem Scanner := do
  let q ← p.dropKey
  match q.outerKeys with
  | k :: outer => pure { q.add t with key := k, outerKeys := outer, keyAllowed := false }
  | [] => pure { q.add t with keyAllowed := false }

def flowEntry (p : Scanner) : Except Problem Scanner := do
  let q ← p.dropKey
  pure { q.add .flowEntry with keyAllowed := true }

/-- An entry of a block sequence. In flow collections the indicator is left for the parser to refuse. -/
def blockEntry (p : Scanner) (c : Cell) : Except Problem Scanner := do
  if !p.inFlow && !p.keyAllowed then throw "no block sequence allowed here"
  let q ← (p.roll c.column .blockSequenceStart).dropKey
  pure { q.add .blockEntry with keyAllowed := true }

def explicitKey (p : Scanner) (c : Cell) : Except Problem Scanner := do
  if !p.inFlow && !p.keyAllowed then throw "no mapping key allowed here"
  let q ← (p.roll c.column .blockMappingStart).dropKey
  pure { q.add .key with keyAllowed := !p.inFlow }

/-- The indicator of a value. If a simple key was possible it is one, and its token is put before it
together with the start of a block mapping when there is none in its column. -/
def value (p : Scanner) (c : Cell) : Except Problem Scanner :=
  match p.key with
  | some k =>
    let opens := p.isDeeper k.column
    let q := p.addAt k.number ((if opens then [.blockMappingStart] else []) ++ [.key])
    let indents := if opens then k.column :: p.indents else p.indents
    .ok { q.add .value with indents, key := none, keyAllowed := false }
  | none =>
    if !p.inFlow && !p.keyAllowed then .error "no mapping value allowed here"
    else .ok { (p.roll c.column .blockMappingStart).add .value with keyAllowed := !p.inFlow }

def content (p : Scanner) (c : Cell) (t : Token) (keyAllowed : Bool) : Except Problem Scanner := do
  let q ← p.saveKey c
  pure { q.add t with keyAllowed }

def topLevel (p : Scanner) (t : Token) : Except Problem Scanner := do
  let q ← (p.unroll 0).dropKey
  pure { q.add t with keyAllowed := false }

def startsPlain (inFlow : Bool) (c next : Char) : Bool :=
  !(isGap c || "-?:,[]\x7b\x7d#&*!|>'\"%@`".toList.contains c) || (c == '-' && !isSpace next) ||
    (!inFlow && (c == '?' || c == ':') && !isGap next)

def readToken (p : Scanner) (c : Cell) (s : Source) : Except Problem (Scanner × Source) := do
  let next := s.peekAt 1
  let rest := s.drop 1
  let one (q : Except Problem Scanner) : Except Problem (Scanner × Source) := q.map fun q => (q, rest)
  if c.column == 0 && c.char == '%' then
    let (t, rest) ← readDirective rest
    pure (← p.topLevel t, rest)
  else if c.column == 0 && s.startsWithMarker '-' then pure (← p.topLevel .documentStart, s.drop 3)
  else if c.column == 0 && s.startsWithMarker '.' then pure (← p.topLevel .documentEnd, s.drop 3)
  else if c.char == '[' then one (p.openFlow c .flowSequenceStart)
  else if c.char == '\x7b' then one (p.openFlow c .flowMappingStart)
  else if c.char == ']' then one (p.closeFlow .flowSequenceEnd)
  else if c.char == '\x7d' then one (p.closeFlow .flowMappingEnd)
  else if c.char == ',' then one p.flowEntry
  else if c.char == '-' && isGap next then one (p.blockEntry c)
  else if c.char == '?' && (p.inFlow || isGap next) then one (p.explicitKey c)
  else if c.char == ':' && (p.inFlow || isGap next) then one (p.value c)
  else if c.char == '*' then
    let (name, rest) ← readAnchor rest
    pure (← p.content c (.alias name) false, rest)
  else if c.char == '&' then
    let (name, rest) ← readAnchor rest
    pure (← p.content c (.anchor name) false, rest)
  else if c.char == '!' then
    let (t, rest) ← readTag p.inFlow s
    pure (← p.content c t false, rest)
  else if !p.inFlow && (c.char == '|' || c.char == '>') then
    let literal := c.char == '|'
    let q ← p.dropKey
    let (text, rest) ← readBlock literal p.margin rest
    pure ({ q.add (.scalar text (if literal then .literal else .folded)) with keyAllowed := true }, rest)
  else if c.char == '\'' || c.char == '"' then
    let (text, rest) ← readQuoted c.char [] .empty 0 rest
    pure (← p.content c (.scalar text (if c.char == '"' then .doubleQuoted else .singleQuoted)) false, rest)
  else if startsPlain p.inFlow c.char next then
    let (text, broken, rest) ← readPlain ⟨p.inFlow, p.margin⟩ [] false .empty s
    pure (← p.content c (.scalar text .plain) broken, rest)
  else throw "no token starts like this"

/-- Reads tokens up to the end. Every token takes a cell at least. -/
def run : Nat → Scanner → Source → Except Problem (List Token)
  | 0, _, _ => .error "unread text"
  | fuel + 1, p, s => do
    let (p, s) := p.skip false s
    match s with
    | [] => throw "unread text"
    | c :: _ =>
      let p ← p.dropStaleKeys c
      let p := p.unroll (c.column + 1)
      if isEnd c.char then
        let p ← (p.unroll 0).dropKey
        pure p.tokens.reverse
      else
        let (p, s) ← p.readToken c s
        run fuel p s

end Scanner

def tokenize (text : String) : Except Problem (List Token) := do
  let s ← Source.ofText text
  Scanner.start.run s.length s

end ToolPipeline.Yaml
