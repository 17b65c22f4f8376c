import ToolPipeline.Text.Utf8

set_option autoImplicit false

/-!
The checksum of archive members.
-/

namespace ToolPipeline.Crc32

/-- Divides one bit further by the reflected polynomial. -/
def shift (c : UInt32) : UInt32 := if c &&& 1 = 1 then (c >>> 1) ^^^ 0xEDB88320 else c >>> 1

def update (c : UInt32) (b : UInt8) : UInt32 := Nat.repeat shift 8 (c ^^^ b.toUInt32)

def checksum (b : Bytes) : UInt32 := b.foldl update 0xFFFFFFFF ^^^ 0xFFFFFFFF

end ToolPipeline.Crc32
