import ToolPipeline.Archive.Crc32
import ToolPipeline.Archive.Inflate

set_option autoImplicit false

/-!
Members of archives.

An archive is read from its end: the end record tells where the directory is, and the directory tells
where the members are. Bytes in front of the archive shift all of these places alike.
-/

namespace ToolPipeline.Zip

inductive Problem where
  | unreadable (reason : String)
  /-- A password is needed for a member that does not say it is encrypted. -/
  | locked
  deriving DecidableEq, Repr

def little (b : Bytes) : Nat := b.foldr (fun x n => x.toNat + 256 * n) 0

def numberAt (b : Bytes) (offset n : Nat) : Nat := little ((b.drop offset).take n)

def endSignature : Nat := 0x06054b50

def directorySignature : Nat := 0x02014b50

def memberSignature : Nat := 0x04034b50

def wideLocatorSignature : Nat := 0x07064b50

def wideEndSignature : Nat := 0x06064b50

def placeLimit : Nat := Nat.pow 2 44

def wideLimit : Nat := Nat.pow 2 64

/-- Where the end record is looked for: it has 22 bytes and a comment of at most 65535 bytes behind. -/
def lastEndRecord? (total position : Nat) (found : Option (Nat × Bytes)) : Bytes → Option (Nat × Bytes)
  | [] => found
  | x :: s =>
    let here := position + 22 ≤ total && total ≤ position + 65557 && x == 0x50 &&
      little ((x :: s).take 4) == endSignature
    lastEndRecord? total (position + 1) (if here then some (position, x :: s) else found) s

structure Layout where
  start : Nat
  shift : Nat
  count : Nat
  deriving DecidableEq, Repr

def findWideEnd (limit position : Nat) : Bytes → Option (Nat × Bytes)
  | [] => none
  | x :: s =>
    if limit < position then none
    else if little ((x :: s).take 4) == wideEndSignature then some (position, x :: s)
    else findWideEnd limit (position + 1) s

def wideLayout (b : Bytes) (endStart offset : Nat) : Except Problem Layout :=
  let nominal := numberAt b (offset + 8) 8
  if endStart < 60 then .error (.unreadable "no room for a wide end record")
  else
    match findWideEnd (endStart - 60) nominal (b.drop nominal) with
    | none => .error (.unreadable "no wide end record")
    | some (position, r) =>
      if r.length < 56 then .error (.unreadable "short wide end record")
      else if numberAt r 16 4 ≠ numberAt r 20 4 then .error (.unreadable "more than one disk")
      else
        let shift := position - nominal
        let start := numberAt r 48 8 + shift
        if start < placeLimit then .ok ⟨start, shift, numberAt r 32 8⟩
        else .error (.unreadable "directory out of place")

def isTooSmall (r : Bytes) : Bool :=
  numberAt r 4 2 == 0xFFFF || numberAt r 6 2 == 0xFFFF || numberAt r 8 2 == 0xFFFF ||
    numberAt r 10 2 == 0xFFFF || numberAt r 12 4 == 0xFFFFFFFF || numberAt r 16 4 == 0xFFFFFFFF

def layout (b : Bytes) : Except Problem Layout :=
  match lastEndRecord? b.length 0 none b with
  | none => .error (.unreadable "no end record")
  | some (position, r) =>
    let comment := numberAt r 20 2
    if r.length < 22 + comment then .error (.unreadable "short comment")
    else if !isTooSmall r && numberAt r 4 2 ≠ numberAt r 6 2 then .error (.unreadable "more than one disk")
    else
      let locator := b.length - (42 + comment)
      if 42 + comment ≤ b.length && numberAt b locator 4 == wideLocatorSignature then
        if !isTooSmall r && numberAt r 4 2 ≠ numberAt b (locator + 4) 4 then .error (.unreadable "more than one disk")
        else wideLayout b position locator
      else
        let size := numberAt r 12 4
        let offset := numberAt r 16 4
        if position < size + offset then .error (.unreadable "directory out of place")
        else .ok ⟨position - size, position - size - offset, numberAt r 8 2⟩

structure Entry where
  name : Bytes
  encrypted : Bool
  locked : Bool
  method : Nat
  checksum : Nat
  size : Nat
  compressedSize : Nat
  offset : Nat
  deriving DecidableEq, Repr

/-- A value, or the next wide one when the value does not fit its field, and the extra data behind. -/
def widen? (value : Nat) (s : Bytes) : Option (Nat × Bytes) :=
  if value ≠ 0xFFFFFFFF then some (value, s)
  else if 8 ≤ s.length then some (numberAt s 0 8, s.drop 8)
  else none

def applyWide (s : Bytes) (e : Entry) : Entry × Option Bytes :=
  match widen? e.size s with
  | none => (e, none)
  | some (size, s) =>
    match widen? e.compressedSize s with
    | none => ({ e with size }, none)
    | some (compressedSize, s) =>
      match widen? e.offset s with
      | none => ({ e with size, compressedSize }, none)
      | some (offset, s) => ({ e with size, compressedSize, offset }, some s)

def applyLock (s : Bytes) (e : Entry) : Except Problem Entry :=
  if numberAt s 2 2 ≠ 0x4541 then .error (.unreadable "unknown vendor of an encryption")
  else if numberAt s 0 2 ≠ 1 && numberAt s 0 2 ≠ 2 then .error (.unreadable "unknown version of an encryption")
  else if numberAt s 4 1 < 1 || 3 < numberAt s 4 1 then .error (.unreadable "unknown strength of an encryption")
  else .ok { e with locked := true, method := numberAt s 5 2 }

/-- Applies the extra data of an entry: fields with a kind, a length and data. What comes behind the data
of an encryption is skipped as if they were there twice. -/
def applyExtra : Nat → Bytes → Entry → Except Problem Entry
  | 0, _, e => .ok e
  | fuel + 1, s, e =>
    if s.length < 4 then .ok e
    else
      let kind := numberAt s 0 2
      let length := numberAt s 2 2
      let data := s.drop 4
      if kind = 1 then
        match applyWide data e with
        | (e, none) => .ok e
        | (e, some rest) => applyExtra fuel (rest.drop (length - (data.length - rest.length))) e
      else if kind = 0x9901 then
        if length ≠ 7 then .error (.unreadable "unknown length of an encryption")
        else if data.length < 7 then .ok e
        else
          match applyLock data e with
          | .ok e => applyExtra fuel (data.drop 14) e
          | .error p => .error p
      else applyExtra fuel (data.drop length) e

/-- The method of members whose encryption is told by the extra data, where the real method is. -/
def lockedMethod : Nat := 99

def placeEntry (shift : Nat) (e : Entry) : Except Problem Entry :=
  if e.method = lockedMethod && !e.locked then .error (.unreadable "encryption without its data")
  else if wideLimit ≤ e.offset + shift then .error (.unreadable "member out of place")
  else .ok { e with offset := e.offset + shift }

def readDirectory (shift : Nat) : (count : Nat) → List Entry → Bytes → Except Problem (List Entry)
  | 0, acc, _ => .ok acc.reverse
  | count + 1, acc, s =>
    let nameLength := numberAt s 28 2
    let extraLength := numberAt s 30 2
    let length := 46 + nameLength + extraLength + numberAt s 32 2
    if (s.take 46).length < 46 || numberAt s 0 4 ≠ directorySignature then
      .error (.unreadable "no directory entry")
    else if (s.take length).length < length then .error (.unreadable "short directory entry")
    else
      let e : Entry :=
        ⟨(s.drop 46).take nameLength, (numberAt s 8 2).testBit 0, false, numberAt s 10 2, numberAt s 16 4,
          numberAt s 24 4, numberAt s 20 4, numberAt s 42 4⟩
      match applyExtra extraLength ((s.drop (46 + nameLength)).take extraLength) e >>= placeEntry shift with
      | .ok e => readDirectory shift count (e :: acc) (s.drop length)
      | .error p => .error p

def entries (b : Bytes) : Except Problem (List Entry) := do
  let l ← layout b
  readDirectory l.shift l.count [] (b.drop l.start)

def content (b : Bytes) (e : Entry) : Except Problem Bytes :=
  let s := b.drop e.offset
  if e.encrypted then .error (.unreadable "encrypted")
  else if (s.take 30).length < 30 || numberAt s 0 4 ≠ memberSignature then .error (.unreadable "no member")
  else if e.method ≠ 0 && e.method ≠ 8 then .error (.unreadable "unknown method")
  else if e.locked then .error .locked
  else
    let raw := (s.drop (30 + numberAt s 26 2 + numberAt s 28 2)).take e.compressedSize
    match if e.method = 0 then some raw else Inflate.inflate raw with
    | none => .error (.unreadable "corrupt data")
    | some d =>
      if (Crc32.checksum d).toNat = e.checksum then .ok d else .error (.unreadable "bad checksum")

def member? (b : Bytes) (l : List Entry) (name : Bytes) : Except Problem (Option Bytes) :=
  match l.reverse.find? fun e => e.name == name with
  | none => .ok none
  | some e => (content b e).map some

end ToolPipeline.Zip
