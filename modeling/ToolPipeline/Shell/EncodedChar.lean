import ToolPipeline.Shell.Chars

set_option autoImplicit false

/-!
Texts as they are shown: the characters that their bytes encode, which of them can be seen, and how wide they are.
-/

namespace ToolPipeline.Shell

/-- The bytes of one character, or one stray byte. -/
structure EncodedChar where
  bytes : Chars
  char? : Option Char
  deriving DecidableEq, Repr

namespace EncodedChar

def tailLimit : Nat := 3

def first (c : Char) (s : Chars) : EncodedChar :=
  if c.toNat < 128 then ⟨[c], some c⟩
  else
    let near := s.take tailLimit
    match Text.firstUnit c.toNat.toUInt8 (Chars.toBytes near) with
    | (some d, rest) => ⟨c :: near.take (near.length - rest.length), some d⟩
    | (none, _) => ⟨[c], none⟩

def ofChars.go (acc : List EncodedChar) : Nat → Chars → List EncodedChar
  | _, [] => acc.reverse
  | skipped + 1, _ :: s => go acc skipped s
  | 0, c :: s =>
    let g := first c s
    go (g :: acc) (g.bytes.length - 1) s

def ofChars (s : Chars) : List EncodedChar := ofChars.go [] 0 s

def isWithin (ranges : List (Nat × Nat)) (n : Nat) : Bool := ranges.any fun r => r.1 ≤ n && n ≤ r.2

def isUnseen (n : Nat) : Bool :=
  n < 32 || (127 ≤ n && n < 160) || n == 0x2028 || n == 0x2029 || (0xFDD0 ≤ n && n ≤ 0xFDEF) || 0xFFFE ≤ n % 0x10000

def isPrintable (g : EncodedChar) : Bool := g.char?.any fun c => !isUnseen c.toNat

def isBlank (g : EncodedChar) : Bool :=
  g.char?.any fun c =>
    let n := c.toNat
    Chars.isSpace c || [0xA0, 0x1680, 0x202F, 0x205F, 0x2060, 0x3000].contains n || (0x2000 ≤ n && n ≤ 0x200A)

def marks : List (Nat × Nat) :=
  [(0x300, 0x36F), (0x483, 0x489), (0x591, 0x5BD), (0x5BF, 0x5BF), (0x5C1, 0x5C2), (0x5C4, 0x5C5), (0x5C7, 0x5C7),
    (0x610, 0x61A), (0x61C, 0x61C), (0x64B, 0x65F), (0x670, 0x670), (0x6D6, 0x6DC), (0x6DF, 0x6E4), (0x6E7, 0x6E8),
    (0x6EA, 0x6ED), (0x93C, 0x93C), (0x941, 0x948), (0x94D, 0x94D), (0x951, 0x957), (0xE31, 0xE31), (0xE34, 0xE3A),
    (0xE47, 0xE4E), (0x1160, 0x11FF), (0x180B, 0x180F), (0x1AB0, 0x1ACE), (0x1DC0, 0x1DFF), (0x200B, 0x200F),
    (0x202A, 0x202E), (0x2060, 0x2064), (0x2066, 0x206F), (0x20D0, 0x20F0), (0x302A, 0x302D), (0x3099, 0x309A),
    (0xFE00, 0xFE0F), (0xFE20, 0xFE2F), (0xFEFF, 0xFEFF), (0xFFF9, 0xFFFB), (0xE0001, 0xE0001), (0xE0020, 0xE007F),
    (0xE0100, 0xE01EF)]

def wide : List (Nat × Nat) :=
  [(0x1100, 0x115F), (0x231A, 0x231B), (0x2329, 0x232A), (0x23E9, 0x23EC), (0x23F0, 0x23F0), (0x23F3, 0x23F3),
    (0x25FD, 0x25FE), (0x2614, 0x2615), (0x2648, 0x2653), (0x267F, 0x267F), (0x2693, 0x2693), (0x26A1, 0x26A1),
    (0x26AA, 0x26AB), (0x26BD, 0x26BE), (0x26C4, 0x26C5), (0x26CE, 0x26CE), (0x26D4, 0x26D4), (0x26EA, 0x26EA),
    (0x26F2, 0x26F3), (0x26F5, 0x26F5), (0x26FA, 0x26FA), (0x26FD, 0x26FD), (0x2705, 0x2705), (0x270A, 0x270B),
    (0x2728, 0x2728), (0x274C, 0x274C), (0x274E, 0x274E), (0x2753, 0x2755), (0x2757, 0x2757), (0x2795, 0x2797),
    (0x27B0, 0x27B0), (0x27BF, 0x27BF), (0x2B1B, 0x2B1C), (0x2B50, 0x2B50), (0x2B55, 0x2B55), (0x2E80, 0x3029),
    (0x302E, 0x303E), (0x3041, 0x3096), (0x309B, 0xA4C6), (0xA960, 0xA97C), (0xAC00, 0xD7A3), (0xF900, 0xFAD9),
    (0xFE10, 0xFE19), (0xFE30, 0xFE6B), (0xFF01, 0xFF60), (0xFFE0, 0xFFE6), (0x16FE0, 0x16FE3), (0x17000, 0x18D08),
    (0x1AFF0, 0x1B2FB), (0x1F004, 0x1F004), (0x1F0CF, 0x1F0CF), (0x1F18E, 0x1F18E), (0x1F191, 0x1F19A),
    (0x1F200, 0x1F265), (0x1F300, 0x1F320), (0x1F32D, 0x1F335), (0x1F337, 0x1F37C), (0x1F37E, 0x1F393),
    (0x1F3A0, 0x1F3CA), (0x1F3CF, 0x1F3D3), (0x1F3E0, 0x1F3F0), (0x1F3F4, 0x1F3F4), (0x1F3F8, 0x1F43E),
    (0x1F440, 0x1F440), (0x1F442, 0x1F4FC), (0x1F4FF, 0x1F53D), (0x1F54B, 0x1F54E), (0x1F550, 0x1F567),
    (0x1F57A, 0x1F57A), (0x1F595, 0x1F596), (0x1F5A4, 0x1F5A4), (0x1F5FB, 0x1F64F), (0x1F680, 0x1F6C5),
    (0x1F6CC, 0x1F6CC), (0x1F6D0, 0x1F6D7), (0x1F6DC, 0x1F6DF), (0x1F6EB, 0x1F6EC), (0x1F6F4, 0x1F6FC),
    (0x1F7E0, 0x1F7F0), (0x1F90C, 0x1F93A), (0x1F93C, 0x1F945), (0x1F947, 0x1F9FF), (0x1FA70, 0x1FAF8),
    (0x20000, 0x323AF)]

def width (g : EncodedChar) : Nat :=
  match g.char? with
  | none => 0
  | some c =>
    let n := c.toNat
    if isUnseen n then 0
    else if n < 0x300 then 1
    else if isWithin marks n then 0
    else if isWithin wide n then 2
    else 1

end EncodedChar

end ToolPipeline.Shell
