import ToolPipeline.Text.Utf8

set_option autoImplicit false

/-!
Decompression of deflated data, which is read bit by bit. Data that ends before its last block does is
as useless as data that breaks the rules, so there is one failure only.
-/

namespace ToolPipeline.Inflate

abbrev Bits := List Bool

def bitsOf (b : Bytes) : Bits := b.flatMap fun x => (List.range 8).map x.toNat.testBit

def number? : Nat → Bits → Option (Nat × Bits)
  | 0, bits => some (0, bits)
  | _ + 1, [] => none
  | n + 1, b :: bits => (number? n bits).map fun p => (p.1 * 2 + b.toNat, p.2)

/-- A canonical code: how many codes there are of each length from one on, and the symbols by length. -/
structure Code where
  counts : List Nat
  symbols : Array Nat
  deriving Repr

namespace Code

def ofLengths (lengths : List Nat) : Code :=
  let numbered := lengths.zipIdx
  let ofLength (n : Nat) := (numbered.filter fun p => p.1 == n).map (·.2)
  let groups := ((List.range 15).map fun n => ofLength (n + 1))
  ⟨groups.map List.length, groups.flatten.toArray⟩

def used (c : Code) : Nat := c.counts.foldl (fun total n => total * 2 + n) 0

def isComplete (c : Code) : Bool := c.used == Nat.pow 2 15

/-- A code for data may also be missing, or consist of one symbol with one bit. -/
def isUsable (c : Code) : Bool :=
  c.isComplete || c.symbols.isEmpty || (c.symbols.size == 1 && c.used == Nat.pow 2 14)

/-- Reads a symbol. `code` are the bits so far, `first` the first code of the length at hand and `index`
the place of its symbol. -/
def readFrom (symbols : Array Nat) (code first index : Nat) : List Nat → Bits → Option (Nat × Bits)
  | n :: counts, b :: bits =>
    let code := code * 2 + b.toNat
    if code < first + n then (symbols[index + (code - first)]?).map fun s => (s, bits)
    else readFrom symbols code ((first + n) * 2) (index + n) counts bits
  | _, _ => none

def read (c : Code) (bits : Bits) : Option (Nat × Bits) := readFrom c.symbols 0 0 0 c.counts bits

end Code

def lengthBases : List Nat :=
  [3, 4, 5, 6, 7, 8, 9, 10, 11, 13, 15, 17, 19, 23, 27, 31, 35, 43, 51, 59, 67, 83, 99, 115, 131, 163, 195,
    227, 258]

def lengthExtras : List Nat :=
  [0, 0, 0, 0, 0, 0, 0, 0, 1, 1, 1, 1, 2, 2, 2, 2, 3, 3, 3, 3, 4, 4, 4, 4, 5, 5, 5, 5, 0]

def distanceBases : List Nat :=
  [1, 2, 3, 4, 5, 7, 9, 13, 17, 25, 33, 49, 65, 97, 129, 193, 257, 385, 513, 769, 1025, 1537, 2049, 3073,
    4097, 6145, 8193, 12289, 16385, 24577]

def distanceExtras : List Nat :=
  [0, 0, 0, 0, 1, 1, 2, 2, 3, 3, 4, 4, 5, 5, 6, 6, 7, 7, 8, 8, 9, 9, 10, 10, 11, 11, 12, 12, 13, 13]

def readBased (bases extras : List Nat) (symbol : Nat) (bits : Bits) : Option (Nat × Bits) := do
  let base ← bases[symbol]?
  let extra ← extras[symbol]?
  let (n, bits) ← number? extra bits
  pure (base + n, bits)

/-- Repeats `n` bytes from `distance` bytes back. Before the start there are zeros. -/
def copyBack (distance : Nat) : Nat → Array UInt8 → Array UInt8
  | 0, out => out
  | n + 1, out =>
    copyBack distance n (out.push (if distance ≤ out.size then out[out.size - distance]?.getD 0 else 0))

def readSymbols (literals distances : Code) : Nat → Array UInt8 → Bits → Option (Array UInt8 × Bits)
  | 0, _, _ => none
  | fuel + 1, out, bits => do
    let (symbol, bits) ← literals.read bits
    if symbol < 256 then readSymbols literals distances fuel (out.push (UInt8.ofNat symbol)) bits
    else if symbol = 256 then pure (out, bits)
    else
      let (length, bits) ← readBased lengthBases lengthExtras (symbol - 257) bits
      let (symbol, bits) ← distances.read bits
      let (distance, bits) ← readBased distanceBases distanceExtras symbol bits
      readSymbols literals distances fuel (copyBack distance length out) bits

def fixedLiterals : Code :=
  .ofLengths (List.replicate 144 8 ++ List.replicate 112 9 ++ List.replicate 24 7 ++ List.replicate 8 8)

def fixedDistances : Code := .ofLengths (List.replicate 32 5)

def lengthOrder : List Nat := [16, 17, 18, 0, 8, 7, 9, 6, 10, 5, 11, 4, 12, 3, 13, 2, 14, 1, 15]

def readTriples : Nat → Bits → Option (List Nat × Bits)
  | 0, bits => some ([], bits)
  | n + 1, bits => do
    let (x, bits) ← number? 3 bits
    let (l, bits) ← readTriples n bits
    pure (x :: l, bits)

def readLengths (code : Code) (total : Nat) : Nat → List Nat → Bits → Option (List Nat × Bits)
  | 0, _, _ => none
  | fuel + 1, acc, bits =>
    if total ≤ acc.length then (if total = acc.length then some (acc.reverse, bits) else none)
    else do
      let (symbol, bits) ← code.read bits
      if symbol < 16 then readLengths code total fuel (symbol :: acc) bits
      else
        let value ← if symbol = 16 then acc.head? else some 0
        let (base, extra) := if symbol = 16 then (3, 2) else if symbol = 17 then (3, 3) else (11, 7)
        let (n, bits) ← number? extra bits
        readLengths code total fuel (List.replicate (base + n) value ++ acc) bits

def readCodes (bits : Bits) : Option ((Code × Code) × Bits) := do
  let (hlit, bits) ← number? 5 bits
  let (hdist, bits) ← number? 5 bits
  let (hclen, bits) ← number? 4 bits
  let literals := hlit + 257
  let distances := hdist + 1
  if 286 < literals || 30 < distances then none
  else
    let (triples, bits) ← readTriples (hclen + 4) bits
    let given := lengthOrder.zip triples
    let code := Code.ofLengths ((List.range 19).map fun s => ((given.find? fun p => p.1 == s).map (·.2)).getD 0)
    if !code.isComplete then none
    else
      let (lengths, bits) ← readLengths code (literals + distances) (literals + distances + 1) [] bits
      let a := Code.ofLengths (lengths.take literals)
      let b := Code.ofLengths (lengths.drop literals)
      if a.isUsable && b.isUsable then pure ((a, b), bits) else none

def readStored : Nat → Array UInt8 → Bits → Option (Array UInt8 × Bits)
  | 0, out, bits => some (out, bits)
  | n + 1, out, bits => do
    let (x, bits) ← number? 8 bits
    readStored n (out.push (UInt8.ofNat x)) bits

/-- Drops the rest of a byte that is read in part. All of the data are whole bytes. -/
def toByte (bits : Bits) : Bits := bits.drop (bits.length % 8)

def readBlocks : Nat → Array UInt8 → Bits → Option (Array UInt8)
  | 0, _, _ => none
  | fuel + 1, out, bits => do
    let (final, bits) ← number? 1 bits
    let (type, bits) ← number? 2 bits
    let (out, bits) ←
      match type with
      | 0 => do
        let (n, bits) ← number? 16 (toByte bits)
        let (m, bits) ← number? 16 bits
        if n + m = 65535 then readStored n out bits else none
      | 1 => readSymbols fixedLiterals fixedDistances (bits.length + 1) out bits
      | 2 => do
        let ((literals, distances), bits) ← readCodes bits
        readSymbols literals distances (bits.length + 1) out bits
      | _ => none
    if final = 1 then pure out else readBlocks fuel out bits

def inflate (b : Bytes) : Option Bytes :=
  let bits := bitsOf b
  (readBlocks (bits.length + 1) #[] bits).map Array.toList

end ToolPipeline.Inflate
