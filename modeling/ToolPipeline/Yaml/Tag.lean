import ToolPipeline.Yaml.Scalar

set_option autoImplicit false

/-!
Reading anchors, aliases, tags and directives. Each reader returns what it read and the source behind.
-/

namespace ToolPipeline.Yaml

def endsAnchor (c : Char) : Bool := isGap c || "?:,]\x7d%@`".toList.contains c

def readAnchor (s : Source) : Except Problem (String × Source) :=
  let (name, rest) := s.takeWhile isNameChar
  if name.isEmpty || !endsAnchor rest.peek then .error "anchor without a name"
  else .ok (String.ofList name, rest)

def readHandle (s : Source) : Except Problem (List Char × Source) :=
  if s.peek != '!' then .error "tag handle expected"
  else
    let (name, rest) := (s.drop 1).takeWhile isNameChar
    if rest.peek == '!' then .ok ('!' :: name ++ ['!'], rest.drop 1) else .ok ('!' :: name, rest)

/-- The characters of tags; brackets and commas count between angle brackets and in directives only. -/
def isUriChar (verbatim : Bool) (c : Char) : Bool :=
  isNameChar c || ";/?:@&=+$.%!~*'()".toList.contains c || (verbatim && ",[]".toList.contains c)

def escapedLength? (b : Nat) : Option Nat :=
  if b < 0x80 then some 1
  else if 0xC0 ≤ b && b < 0xE0 then some 2
  else if 0xE0 ≤ b && b < 0xF0 then some 3
  else if 0xF0 ≤ b && b < 0xF8 then some 4
  else none

def readOctet (s : Source) : Except Problem (Nat × Source) :=
  match s.peek == '%', hexNumber? 0 2 (s.drop 1) with
  | true, some b => .ok (b, s.drop 3)
  | _, _ => .error "two digits expected"

def readOctets : Nat → Bytes → Source → Except Problem (Bytes × Source)
  | 0, bytes, s => .ok (bytes, s)
  | n + 1, bytes, s => do
    let (b, s) ← readOctet s
    if 0x80 ≤ b && b < 0xC0 then readOctets n (bytes ++ [UInt8.ofNat b]) s else throw "stray byte"

/-- Reads a character written as percent signs with digits. Only the lead byte and the number of bytes
behind it are checked, so that the bytes need not be well formed. -/
def readUriEscape (s : Source) : Except Problem (Bytes × Source) := do
  let (b, s) ← readOctet s
  match escapedLength? b with
  | none => throw "stray byte"
  | some n => readOctets (n - 1) [UInt8.ofNat b] s

def readUriChars (verbatim : Bool) : Nat → Bytes → Source → Except Problem (Bytes × Source)
  | 0, text, s => .ok (text, s)
  | fuel + 1, text, s =>
    if !isUriChar verbatim s.peek then .ok (text, s)
    else if s.peek == '%' then
      match readUriEscape s with
      | .ok (bytes, s) => readUriChars verbatim fuel (text ++ bytes) s
      | .error e => .error e
    else readUriChars verbatim fuel (text ++ String.utf8EncodeChar s.peek) (s.drop 1)

/-- Reads the characters of a tag that go on after `head`. Together they must not be empty, and an
exclamation mark that opens the head is left out. A zero byte ends the tag, and nothing behind it counts. -/
def readUri (verbatim : Bool) (head : List Char) (s : Source) : Except Problem (Bytes × Source) := do
  let (text, rest) ← readUriChars verbatim s.length [] s
  if head.isEmpty && text.isEmpty then throw "empty tag"
  else pure ((Text.encode (String.ofList (head.drop 1)) ++ text).takeWhile (· != 0), rest)

def isClosedHandle (h : List Char) : Bool := 1 < h.length && h.getLast? == some '!'

def bareTag : Bytes := Text.encode "!"

/-- Reads a tag: verbatim between angle brackets, or a handle with a suffix. -/
def readTag (inFlow : Bool) (s : Source) : Except Problem (Token × Source) := do
  let (handle, suffix, rest) ←
    if s.peekAt 1 == '<' then do
      let (suffix, rest) ← readUri true [] (s.drop 2)
      if rest.peek == '>' then pure (([] : List Char), suffix, rest.drop 1) else throw "open tag"
    else do
      let (handle, rest) ← readHandle s
      if isClosedHandle handle then
        let (suffix, rest) ← readUri false [] rest
        pure (handle, suffix, rest)
      else
        let (suffix, rest) ← readUri false handle rest
        if suffix.isEmpty then pure ([], bareTag, rest) else pure (['!'], suffix, rest)
  if (inFlow && rest.peek == ',') || isGap rest.peek then
    pure (.tag (String.ofList handle) suffix, rest)
  else throw "text behind a tag"

def readVersionNumber (s : Source) : Except Problem (Nat × Source) :=
  let (digits, rest) := s.takeWhile Char.isDigit
  if digits.isEmpty || 9 < digits.length then .error "version number expected"
  else .ok (digits.foldl (fun n d => n * 10 + (d.toNat - 48)) 0, rest)

def readDirective (s : Source) : Except Problem (Token × Source) := do
  let (name, rest) := s.takeWhile isNameChar
  if name.isEmpty || !isGap rest.peek then throw "directive without a name"
  let rest := rest.dropWhile isSpace
  if name == "YAML".toList then
    let (major, rest) ← readVersionNumber rest
    if rest.peek != '.' then throw "version number expected"
    let (minor, rest) ← readVersionNumber (rest.drop 1)
    pure (.versionDirective major minor, ← rest.endLine)
  else if name == "TAG".toList then
    let (handle, rest) ← readHandle rest
    if !isClosedHandle handle && handle != ['!'] then throw "closed handle expected"
    if !isSpace rest.peek then throw "space expected"
    let (expansion, rest) ← readUri true [] (rest.dropWhile isSpace)
    if !isGap rest.peek then throw "text behind a tag"
    pure (.tagDirective (String.ofList handle) expansion, ← rest.endLine)
  else throw "unknown directive"

end ToolPipeline.Yaml
