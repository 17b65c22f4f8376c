set_option autoImplicit false

/-!
Spans of time and how they are shown.
-/

namespace ToolPipeline

structure Duration where
  seconds : Nat
  nanos : Nat
  deriving DecidableEq, Repr

namespace Duration

def ofParts (seconds nanos : Nat) : Duration := ⟨seconds + nanos / 1000000000, nanos % 1000000000⟩

def zero : Duration := ⟨0, 0⟩

def milliseconds (d : Duration) : Nat := d.seconds * 1000 + d.nanos / 1000000

/-- The decimals of `part / 10 ^ width`, without zeros at the end; nothing for zero. -/
def decimals (width part : Nat) : String :=
  let digits := (Nat.toDigits 10 part)
  let padded := List.replicate (width - digits.length) '0' ++ digits
  let kept := (padded.reverse.dropWhile (· == '0')).reverse
  if kept.isEmpty then "" else "." ++ String.ofList kept

/-- The largest unit that leaves a whole part: seconds, milliseconds, microseconds or nanoseconds. -/
def text (d : Duration) : String :=
  if 0 < d.seconds then toString d.seconds ++ decimals 9 d.nanos ++ "s"
  else if 1000000 ≤ d.nanos then toString (d.nanos / 1000000) ++ decimals 6 (d.nanos % 1000000) ++ "ms"
  else if 1000 ≤ d.nanos then toString (d.nanos / 1000) ++ decimals 3 (d.nanos % 1000) ++ "µs"
  else toString d.nanos ++ "ns"

end Duration

end ToolPipeline
