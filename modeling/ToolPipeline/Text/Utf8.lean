set_option autoImplicit false

/-!
UTF-8: text as bytes and bytes as text.

`units` cuts any byte sequence into the characters it holds and the ill-formed pieces between them,
where an ill-formed piece is the longest start of a character that is not continued, or one stray byte.
`decode?` accepts the sequences without ill-formed pieces, `decodeLossy` shows each piece as U+FFFD.
-/

namespace ToolPipeline

abbrev Bytes := List UInt8

namespace Text

/-- The ranges of the bytes that must follow `lead`, or `none` when no character starts with it. -/
def continuations (lead : UInt8) : Option (List (UInt8 × UInt8)) :=
  if lead < 0x80 then some []
  else if lead < 0xC2 then none
  else if lead < 0xE0 then some [(0x80, 0xBF)]
  else if lead = 0xE0 then some [(0xA0, 0xBF), (0x80, 0xBF)]
  else if lead = 0xED then some [(0x80, 0x9F), (0x80, 0xBF)]
  else if lead < 0xF0 then some [(0x80, 0xBF), (0x80, 0xBF)]
  else if lead = 0xF0 then some [(0x90, 0xBF), (0x80, 0xBF), (0x80, 0xBF)]
  else if lead < 0xF4 then some [(0x80, 0xBF), (0x80, 0xBF), (0x80, 0xBF)]
  else if lead = 0xF4 then some [(0x80, 0x8F), (0x80, 0xBF), (0x80, 0xBF)]
  else none

/-- Takes bytes as long as they fit the ranges: the code point so far, and the bytes behind.
The code point is missing when a byte does not fit. -/
def follow (code : Nat) : List (UInt8 × UInt8) → Bytes → Option Nat × Bytes
  | [], s => (some code, s)
  | _ :: _, [] => (none, [])
  | (low, high) :: ranges, b :: s =>
    if low ≤ b && b ≤ high then follow (code * 64 + (b.toNat - 0x80)) ranges s else (none, b :: s)

theorem length_follow_le (code : Nat) (ranges : List (UInt8 × UInt8)) (s : Bytes) :
    (follow code ranges s).2.length ≤ s.length := by
  induction ranges generalizing code s with
  | nil => simp [follow]
  | cons r ranges ih =>
    cases s with
    | nil => simp [follow]
    | cons b s =>
      simp only [follow]
      split
      · exact Nat.le_succ_of_le (ih _ s)
      · simp

def leadBits (lead : UInt8) : Nat :=
  if lead < 0x80 then lead.toNat
  else if lead < 0xE0 then lead.toNat - 0xC0
  else if lead < 0xF0 then lead.toNat - 0xE0
  else lead.toNat - 0xF0

def firstUnit (lead : UInt8) (s : Bytes) : Option Char × Bytes :=
  match continuations lead with
  | none => (none, s)
  | some ranges =>
    let p := follow (leadBits lead) ranges s
    (p.1.map Char.ofNat, p.2)

theorem length_firstUnit_le (lead : UInt8) (s : Bytes) : (firstUnit lead s).2.length ≤ s.length := by
  unfold firstUnit
  split
  · simp
  · exact length_follow_le _ _ s

/-- Characters, and `none` for each ill-formed piece, in front of those read before. -/
def units.go (acc : List (Option Char)) : Bytes → List (Option Char)
  | [] => acc.reverse
  | b :: s =>
    have := length_firstUnit_le b s
    go ((firstUnit b s).1 :: acc) (firstUnit b s).2
  termination_by s => s.length
  decreasing_by simp only [List.length_cons]; omega

def units (s : Bytes) : List (Option Char) := units.go [] s

def decode? (s : Bytes) : Option String :=
  let u := units s
  if u.all Option.isSome then some (String.ofList (u.filterMap id)) else none

/-- The text of the bytes, with U+FFFD for each ill-formed piece. -/
def decodeLossy (s : Bytes) : String := String.ofList ((units s).map fun c => c.getD '\uFFFD')

def encode (s : String) : Bytes := s.toList.flatMap String.utf8EncodeChar

def byteLength (s : List Char) : Nat := (s.map Char.utf8Size).foldr (· + ·) 0

end Text

end ToolPipeline
