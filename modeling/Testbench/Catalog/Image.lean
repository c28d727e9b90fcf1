import Testbench.Bytes
import Testbench.Catalog.Keyed
import Testbench.Text.Utf8

/-!
# Written catalogs

A driver hands out its numbered module as bytes, the image. All numbers come first and all names
after them:

* the number of fixtures, and for each fixture the position of its record, a word each;
* for each fixture its record – its key and the number of its routines, half a word each, and where
  its name starts and how long it is, a word each – and right behind it the records of its routines
  – the code of the role, the key and a zero, half a word each, and again where the name starts and
  how long it is;
* the names, in the order of the records, one right after the other.

All positions count from the start of the image. `writeInto` writes it into a buffer, numbers and
names side by side, and `decode` reads one.
-/

namespace Testbench.Image

open Keyed

variable {ρ : Type}

/-! ### Writing -/

/-- Bytes that are put over those of a buffer. -/
structure Write where
  /-- The position of the first. -/
  start : Nat
  bytes : List UInt8
deriving DecidableEq, Repr

namespace Write

/-- The position behind the last byte. -/
def stop (w : Write) : Nat := w.start + w.bytes.length

/-- Puts bytes over those of a buffer from some position on. -/
def overwrite (buffer : Array UInt8) (start : Nat) : List UInt8 → Array UInt8
  | [] => buffer
  | b :: bs => overwrite (buffer.setIfInBounds start b) (start + 1) bs

/-- Puts the bytes of a write over those of a buffer. -/
def into (buffer : Array UInt8) (w : Write) : Array UInt8 := overwrite buffer w.start w.bytes

end Write

/-- An image on its way into a buffer. It is written at two places: numbers go behind the numbers
and names behind the names. -/
structure Draft where
  /-- Where the next number goes. -/
  number : Nat
  /-- Where the next name goes. -/
  name : Nat
  /-- What was written so far, the last first. -/
  writes : List Write := []

namespace Draft

/-- Writes the bytes of numbers. -/
def put (d : Draft) (bytes : List UInt8) : Draft :=
  { d with number := d.number + bytes.length, writes := ⟨d.number, bytes⟩ :: d.writes }

/-- Writes a name. -/
def putName (d : Draft) (s : String) : Draft :=
  { d with name := d.name + s.utf8ByteSize, writes := ⟨d.name, Utf8.ofString s⟩ :: d.writes }

/-- Writes the positions of the records of some fixtures, the first of them at `position`. -/
def putPositions (d : Draft) (position : Nat) : List (Keyed.Group ρ) → Draft
  | [] => d
  | g :: gs =>
    (d.put (le32 (UInt32.ofNat position))).putPositions (position + (12 + 16 * g.entries.size)) gs

/-- The record of a routine whose name starts at `name`. -/
def entryRecord (key name : Nat) (e : Entry ρ) : List UInt8 :=
  le32 e.role.code ++ le16 (UInt16.ofNat key) ++ le16 0
    ++ le32 (UInt32.ofNat name) ++ le32 (UInt32.ofNat e.name.utf8ByteSize)

/-- The record of a fixture whose name starts at `name`. -/
def groupRecord (key name : Nat) (g : Keyed.Group ρ) : List UInt8 :=
  le16 (UInt16.ofNat key) ++ le16 (UInt16.ofNat g.entries.size)
    ++ le32 (UInt32.ofNat name) ++ le32 (UInt32.ofNat g.name.utf8ByteSize)

/-- Writes the records and the names of some routines, the first of which has the key `key`. -/
def putEntries (d : Draft) (key : Nat) : List (Entry ρ) → Draft
  | [] => d
  | e :: es => ((d.putName e.name).put (entryRecord key d.name e)).putEntries (key + 1) es

/-- Writes the records and the names of some fixtures, the first of which has the key `key`, with
those of their routines. -/
def putGroups (d : Draft) (key : Nat) : List (Keyed.Group ρ) → Draft
  | [] => d
  | g :: gs =>
    let d := (d.putName g.name).put (groupRecord key d.name g)
    (d.putEntries 0 g.entries.toList).putGroups (key + 1) gs

end Draft

/-- All that is written of a module. The positions of the records are counted ahead of them. -/
def draft (k : Keyed ρ) : Draft :=
  let groups := k.groups.toList
  let count : Draft := { number := 0, name := k.recordsSize }
  ((count.put (le32 (UInt32.ofNat groups.length))).putPositions (4 + 4 * groups.length) groups)
    |>.putGroups 0 groups

/-- The writes that make an image, in order. -/
def writes (k : Keyed ρ) : List Write := (draft k).writes.reverse

/-- A buffer is too small for an image of so many bytes. -/
structure TooSmall where
  /-- The size of the image. -/
  required : Nat
deriving DecidableEq, Repr

instance : Text.Explained TooSmall where
  cause e :=
    ⟨"BufferTooSmall", "output buffer too small, " ++ Text.hex e.required ++ " bytes required"⟩
  sources _ := []

/-- Writes the image of a module to the start of a buffer, which must be large enough for all of
it. Answers the number of bytes written and the buffer afterwards. -/
def writeInto (k : Keyed ρ) (buffer : List UInt8) : Except TooSmall (Nat × List UInt8) :=
  if buffer.length < k.size then .error ⟨k.size⟩
  else .ok (k.size, ((writes k).foldl Write.into buffer.toArray).toList)

/-! ### Reading -/

/-- A routine as an image describes it. -/
structure EntryInfo where
  /-- The part it plays in its fixture. -/
  role : Role
  key : UInt16
  name : String
deriving DecidableEq, Repr

/-- A fixture as an image describes it. -/
structure FixtureInfo where
  key : UInt16
  name : String
  /-- Its routines, in the order of the image. -/
  entries : List EntryInfo
deriving DecidableEq, Repr

/-- A module as an image describes it. -/
structure ModuleInfo where
  /-- The fixtures, in the order of the image. -/
  fixtures : List FixtureInfo
deriving DecidableEq, Repr

/-- Why some bytes are no image. -/
inductive DecodeError
  /-- The bytes end inside a record. -/
  | cutOff
  /-- A record is said to lie behind the end. -/
  | badOffset (offset length : Nat)
  /-- A name ends behind the end. -/
  | badNameEnd (stop length : Nat)
  /-- A name is not UTF-8. -/
  | notUtf8 (why : Utf8.DecodeError)
  /-- A routine has no known role. -/
  | unknownRole (code : InvalidCode)
deriving DecidableEq, Repr

instance : Text.Explained DecodeError where
  cause
    | .cutOff => ⟨"SliceRead", "Failed to read from buffer slice"⟩
    | .badOffset offset length =>
      ⟨"BadOffset",
        "offset " ++ Text.hex offset ++ " exceeds buffer length " ++ Text.hex length⟩
    | .badNameEnd stop length =>
      ⟨"BadStringEnd", "string end (" ++ Text.hex stop ++ ") exceeds buffer length ("
        ++ Text.hex length ++ ")"⟩
    | .notUtf8 why => ⟨"Utf8Error", "Failed to read UTF-8 string: " ++ Text.message why⟩
    | .unknownRole _ => ⟨"EntryType", "invalid entry type"⟩
  sources
    | .notUtf8 why => Text.explain why
    | .unknownRole code => Text.explain code
    | _ => []

/-- The half word at some position. -/
def read16 (bytes : Array UInt8) (start : Nat) : Except DecodeError UInt16 :=
  match word16 start bytes with
  | some w => .ok w
  | none => .error .cutOff

/-- The word at some position. -/
def read32 (bytes : Array UInt8) (start : Nat) : Except DecodeError UInt32 :=
  match word32 start bytes with
  | some w => .ok w
  | none => .error .cutOff

/-- The name that starts at `offset` and takes `length` bytes. -/
def readName (bytes : Array UInt8) (offset length : UInt32) : Except DecodeError String :=
  let start := offset.toNat
  let stop := start + length.toNat
  if bytes.size < stop then .error (.badNameEnd stop bytes.size)
  else match Utf8.toString? (bytes.extract start stop).toList with
    | .ok s => .ok s
    | .error why => .error (.notUtf8 why)

/-- Reads the routine whose record is at position `start`. -/
def readEntry (bytes : Array UInt8) (start : Nat) : Except DecodeError EntryInfo := do
  let code ← read32 bytes start
  let key ← read16 bytes (start + 4)
  let name ← read32 bytes (start + 8)
  let length ← read32 bytes (start + 12)
  match Role.ofCode? code with
  | .error invalid => throw (.unknownRole invalid)
  | .ok role => return ⟨role, key, ← readName bytes name length⟩

/-- Reads `n` routines whose records lie back to back from `start` on; `read` holds those before
them, last first. -/
def readEntries (bytes : Array UInt8) (start : Nat) (read : List EntryInfo) :
    Nat → Except DecodeError (List EntryInfo)
  | 0 => .ok read.reverse
  | n + 1 =>
    match readEntry bytes start with
    | .error why => .error why
    | .ok e => readEntries bytes (start + 16) (e :: read) n

/-- Reads the fixture whose record is at position `start`. -/
def readFixture (bytes : Array UInt8) (start : Nat) : Except DecodeError FixtureInfo := do
  if bytes.size < start then throw (.badOffset start bytes.size)
  let key ← read16 bytes start
  let count ← read16 bytes (start + 2)
  let name ← read32 bytes (start + 4)
  let length ← read32 bytes (start + 8)
  let entries ← readEntries bytes (start + 12) [] count.toNat
  return ⟨key, ← readName bytes name length, entries⟩

/-- Reads `n` fixtures whose positions are given back to back from `start` on; `read` holds those
before them, last first. -/
def readFixtures (bytes : Array UInt8) (start : Nat) (read : List FixtureInfo) :
    Nat → Except DecodeError (List FixtureInfo)
  | 0 => .ok read.reverse
  | n + 1 =>
    match read32 bytes start with
    | .error why => .error why
    | .ok position =>
      match readFixture bytes position.toNat with
      | .error why => .error why
      | .ok f => readFixtures bytes (start + 4) (f :: read) n

/-- Reads a module from the bytes of an array. -/
def decodeArray (bytes : Array UInt8) : Except DecodeError ModuleInfo := do
  let count ← read32 bytes 0
  return ⟨← readFixtures bytes 4 [] count.toNat⟩

/-- Reads a module from an image, which other bytes may follow. -/
def decode (bytes : List UInt8) : Except DecodeError ModuleInfo := decodeArray bytes.toArray

end Testbench.Image
