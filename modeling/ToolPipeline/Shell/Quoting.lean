import ToolPipeline.Shell.EncodedChar

set_option autoImplicit false

/-!
Names and values in messages. Names are quoted so that a shell would read them back; values stand in plain quotes.
-/

namespace ToolPipeline.Shell.Quoting

def letter? : Char → Option Char
  | '\x07' => some 'a'
  | '\x08' => some 'b'
  | '\x0c' => some 'f'
  | '\n' => some 'n'
  | '\r' => some 'r'
  | '\t' => some 't'
  | '\x0b' => some 'v'
  | _ => none

def octal (c : Char) : Chars :=
  let n := c.toNat
  ['\\', Char.ofNat (48 + n / 64), Char.ofNat (48 + n / 8 % 8), Char.ofNat (48 + n % 8)]

def escape? (c : Char) : Option Chars :=
  match letter? c with
  | some l => some ['\\', l]
  | none => if Chars.isPrintable c then none else some (octal c)

def escapeAll? (g : EncodedChar) : Option Chars :=
  match g.bytes with
  | [c] => escape? c
  | bytes => if g.isPrintable then none else some (bytes.flatMap octal)

def value (s : Chars) : Chars :=
  Chars.ofString "‘" ++ ((EncodedChar.ofChars s).flatMap fun g =>
    if g.char? == some '\\' || g.char? == some '’' then '\\' :: g.bytes else (escapeAll? g).getD g.bytes) ++
    Chars.ofString "’"

/-- The characters that mean something to a shell; some only in front or alone. -/
def isActive (alone first : Bool) (c : Char) : Bool :=
  c == '?' || c == '\\' || c == '\'' || "! \"$&()*;<=>[^|\x60".toList.contains c ||
    (first && (c == '#' || c == '~')) || (alone && (c == '\x7b' || c == '\x7d'))

def needsQuotes (s : Chars) : Bool :=
  s.isEmpty || (s.zipIdx.any fun p => isActive (s.length == 1) (p.2 == 0) p.1) ||
    (EncodedChar.ofChars s).any fun g => (escapeAll? g).isSome

def fitsDoubleQuotes (s : Chars) : Bool :=
  s.contains '\'' && ((EncodedChar.ofChars s).all fun g => (escapeAll? g).isNone) && s.zipIdx.all fun p =>
    let c := p.1
    (p.2 == 0 && (c == '#' || c == '~')) || (s.length == 1 && (c == '\x7b' || c == '\x7d')) ||
      !("?\\\"$&()*;<=>[^|!\x60#~\x7b\x7d".toList.contains c)

/-- Glyphs in single quotes with the closing quote. Those that cannot be seen stand outside of them; the flag
tells whether the character before did. -/
def single : (outside : Bool) → List EncodedChar → Chars
  | _, [] => ['\'']
  | outside, g :: s =>
    match escapeAll? g with
    | some e => (if outside then e else '\'' :: '$' :: '\'' :: e) ++ single true s
    | none =>
      if g.bytes == ['\''] then '\'' :: '\\' :: '\'' :: '\'' :: single false s
      else if outside then '\'' :: '\'' :: g.bytes ++ single false s
      else g.bytes ++ single false s

def name (s : Chars) : Chars :=
  if fitsDoubleQuotes s then '"' :: s ++ ['"'] else '\'' :: single false (EncodedChar.ofChars s)

def nameIfNeeded (s : Chars) : Chars := if needsQuotes s || s.contains ':' then name s else s

end ToolPipeline.Shell.Quoting
