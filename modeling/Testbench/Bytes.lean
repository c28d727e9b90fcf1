/-!
# Words in bytes

All records are laid out in little-endian words. `le16`, `le32` and `le64` write a word;
`word16`, `word32` and `word64` read one at some position and answer nothing where the bytes end
before it does. The writers of lists and the readers of arrays meet in the view `List.toArray`.
-/

namespace Testbench

/-- The two bytes of a word. -/
def le16 (w : UInt16) : List UInt8 := [w.toUInt8, (w >>> 8).toUInt8]

/-- The four bytes of a word. -/
def le32 (w : UInt32) : List UInt8 :=
  [w.toUInt8, (w >>> 8).toUInt8, (w >>> 16).toUInt8, (w >>> 24).toUInt8]

/-- The eight bytes of a word. -/
def le64 (w : UInt64) : List UInt8 :=
  [w.toUInt8, (w >>> 8).toUInt8, (w >>> 16).toUInt8, (w >>> 24).toUInt8,
    (w >>> 32).toUInt8, (w >>> 40).toUInt8, (w >>> 48).toUInt8, (w >>> 56).toUInt8]

/-- The number that some bytes, least significant first, stand for. -/
def littleEndian (bytes : List UInt8) : Nat := bytes.foldr (fun b n => b.toNat + 256 * n) 0

/-- The `width` bytes at position `start`, if there are as many. -/
def field (width start : Nat) (bytes : Array UInt8) : Option (List UInt8) :=
  if start + width ≤ bytes.size then some (bytes.extract start (start + width)).toList else none

/-- The word at position `start`. -/
def word16 (start : Nat) (bytes : Array UInt8) : Option UInt16 :=
  (field 2 start bytes).map fun w => UInt16.ofNat (littleEndian w)

/-- The word at position `start`. -/
def word32 (start : Nat) (bytes : Array UInt8) : Option UInt32 :=
  (field 4 start bytes).map fun w => UInt32.ofNat (littleEndian w)

/-- The word at position `start`. -/
def word64 (start : Nat) (bytes : Array UInt8) : Option UInt64 :=
  (field 8 start bytes).map fun w => UInt64.ofNat (littleEndian w)

end Testbench
