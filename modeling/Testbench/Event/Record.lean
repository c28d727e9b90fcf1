import Testbench.Bytes
import Testbench.Event
import Testbench.Text.Utf8

/-!
# Event records

An event crosses the border between a driver and its client as a record of bytes:

* the code of its kind and the size of the whole record, a word each;
* the line of an assertion, or zero, and the number of stack frames, a word each;
* for every text of the event and at last for its stack, where in the record the text starts and how
  many bytes it takes, a word each; an empty text lies nowhere, at zero;
* the texts, one right after the other, and zeros up to the next multiple of eight.

`encode` writes a record and `decode` reads the one at the start of some bytes. Texts are cut down
to `maxText` bytes and stacks to `maxFrames` frames, and the frames of a stack share one text, a
line each; what `decode` gives back is the event after that. `readAll` reads records back to back.
-/

namespace Testbench.Record

/-- Records start at multiples of this many bytes. -/
def alignment : Nat := 8

/-- The greatest number of stack frames in a record. -/
def maxFrames : Nat := 32

/-- The greatest number of bytes of a text in a record. -/
def maxText : Nat := 0xffff

/-- The size of a record's words when it holds `n` texts besides the stack. -/
def fixedSize (n : Nat) : Nat := 16 + 8 * (n + 1)

/-- The size of the words of the longest record. -/
def maxFixedSize : Nat := fixedSize 3

/-- The first multiple of eight that is no smaller than `n`. -/
def padded (n : Nat) : Nat := (n + (alignment - 1)) / alignment * alignment

/-- Where a text lies in its record. -/
structure TextRef where
  /-- The position of its first byte. -/
  offset : UInt32
  /-- The number of its bytes. -/
  length : UInt32
deriving DecidableEq, Repr

/-- The two words of a reference. -/
def TextRef.bytes (r : TextRef) : List UInt8 := le32 r.offset ++ le32 r.length

/-- The references to some texts that lie back to back from `start` on. -/
def place (start : Nat) : List (List UInt8) → List TextRef
  | [] => []
  | t :: ts =>
    (if t.isEmpty then ⟨0, 0⟩ else ⟨UInt32.ofNat start, UInt32.ofNat t.length⟩)
      :: place (start + t.length) ts

/-! ### Stacks as text -/

/-- The lines of a text, which are one more than its line breaks. -/
def lines (cs : List Char) : List (List Char) :=
  cs.foldr (fun c ls =>
    if c = '\n' then [] :: ls
    else match ls with
      | [] => [[c]]
      | l :: ls => (c :: l) :: ls) [[]]

/-- The first frames of a stack, a line each, cut down to what a record holds. -/
def stackText (t : StackTrace) : List Char :=
  Utf8.cap maxText (List.intercalate ['\n'] ((t.frames.take maxFrames).map String.toList))

/-- The number of frames that a stack's text shows: its lines that are not empty. -/
def frameCount (text : List Char) : Nat := (lines text).countP fun l => !l.isEmpty

/-! ### Writing -/

/-- The texts of an event, in the order of its record. -/
def texts : Event.Detail → List String
  | .failedAssertion file routine _ expression => [file, routine, expression]
  | .uncaughtException message | .inconclusiveness message | .log message => [message]

/-- The word before the frame count. -/
def leadWord : Event.Detail → UInt32
  | .failedAssertion _ _ line _ => line
  | _ => 0

/-- A text as it stands in a record. -/
def capped (s : String) : List Char := Utf8.cap maxText s.toList

/-- The text of an event's stack; empty when it has none. -/
def stackOf (e : Event) : List Char :=
  match e.stack with
  | none => []
  | some t => stackText t

/-- All texts of a record, the stack last. -/
def pieces (e : Event) : List (List UInt8) :=
  (texts e.detail).map (fun s => Utf8.encode (capped s)) ++ [Utf8.encode (stackOf e)]

/-- The size of a record without its padding. -/
def unpaddedSize (e : Event) : Nat :=
  fixedSize (texts e.detail).length + (pieces e).flatten.length

/-- The frame count that is written for an event. -/
def writtenFrames (e : Event) : Nat :=
  match e.stack with
  | none => 0
  | some t => frameCount (stackText t)

/-- The record of an event. -/
def encode (e : Event) : List UInt8 :=
  let body := pieces e
  let used := unpaddedSize e
  let size := padded used
  le32 e.kind.code ++ le32 (UInt32.ofNat size) ++ le32 (leadWord e.detail)
    ++ le32 (UInt32.ofNat (writtenFrames e))
    ++ (place (fixedSize (texts e.detail).length) body).flatMap TextRef.bytes
    ++ body.flatten ++ List.replicate (size - used) 0

/-! ### Reading -/

/-- Why some bytes do not start with a record. -/
inductive DecodeError
  /-- The bytes end before the words of the record do. -/
  | cutOff
  /-- The record is of no known kind. -/
  | unknownKind (code : InvalidCode)
  /-- The size is too small for a header, no multiple of eight, or more than there is. -/
  | badSize (size remaining : Nat)
  /-- A text ends behind its record. -/
  | badTextEnd (stop length : Nat)
  /-- A text is not UTF-8. -/
  | notUtf8 (why : Utf8.DecodeError)
deriving DecidableEq, Repr

instance : Text.Explained DecodeError where
  cause
    | .cutOff => ⟨"SliceRead", "Failed to read from buffer slice"⟩
    | .unknownKind _ => ⟨"EventType", "invalid event type"⟩
    | .badSize size remaining =>
      ⟨"BadSize", "record size " ++ Text.hex size ++ " is invalid for remaining buffer length "
        ++ Text.hex remaining⟩
    | .badTextEnd stop length =>
      ⟨"BadStringEnd", "string end (" ++ Text.hex stop ++ ") exceeds record length ("
        ++ Text.hex length ++ ")"⟩
    | .notUtf8 why => ⟨"Utf8Error", "Failed to read UTF-8 string: " ++ Text.message why⟩
  sources
    | .unknownKind code => Text.explain code
    | .notUtf8 why => Text.explain why
    | _ => []

/-- The text that a reference points to. -/
def readText (record : Array UInt8) (r : TextRef) : Except DecodeError String :=
  let start := r.offset.toNat
  let stop := start + r.length.toNat
  if record.size < stop then .error (.badTextEnd stop record.size)
  else match Utf8.toString? (record.extract start stop).toList with
    | .ok s => .ok s
    | .error why => .error (.notUtf8 why)

/-- The stack of a record that counts `count` frames. -/
def readStack (record : Array UInt8) (r : TextRef) (count : UInt32) :
    Except DecodeError (Option StackTrace) :=
  if count = 0 then .ok none
  else (readText record r).map fun s => some ⟨(lines s.toList).map String.ofList⟩

/-- The word at some position of a record. -/
def readWord (record : Array UInt8) (start : Nat) : Except DecodeError UInt32 :=
  match word32 start record with
  | some w => .ok w
  | none => .error .cutOff

/-- The `i`-th reference of a record. -/
def readRef (record : Array UInt8) (i : Nat) : Except DecodeError TextRef := do
  return ⟨← readWord record (16 + 8 * i), ← readWord record (20 + 8 * i)⟩

/-- Reads an assertion from the whole of its record. -/
def readAssertion (record : Array UInt8) : Except DecodeError Event := do
  let line ← readWord record 8
  let count ← readWord record 12
  let file ← readRef record 0
  let routine ← readRef record 1
  let expression ← readRef record 2
  let stack ← readRef record 3
  let file ← readText record file
  let routine ← readText record routine
  let expression ← readText record expression
  return ⟨.failedAssertion file routine line expression, ← readStack record stack count⟩

/-- Reads an event other than an assertion, which is one message, from the whole of its record. -/
def readMessage (detail : String → Event.Detail) (record : Array UInt8) :
    Except DecodeError Event := do
  let count ← readWord record 12
  let message ← readRef record 0
  let stack ← readRef record 1
  let message ← readText record message
  return ⟨detail message, ← readStack record stack count⟩

/-- Reads an event of the kind that `code` stands for from the whole of its record. -/
def readEvent (code : UInt32) (record : Array UInt8) : Except DecodeError Event :=
  match EventKind.ofCode? code with
  | .error invalid => .error (.unknownKind invalid)
  | .ok .failedAssertion => readAssertion record
  | .ok .uncaughtException => readMessage .uncaughtException record
  | .ok .inconclusiveness => readMessage .inconclusiveness record
  | .ok .log => readMessage .log record

/-- Reads the record at the start of some bytes: its event and its size. -/
def decode (bytes : List UInt8) : Except DecodeError (Event × Nat) := do
  let header := (bytes.take 8).toArray
  let code ← readWord header 0
  let size := (← readWord header 4).toNat
  if size < 8 ∨ size % alignment ≠ 0 ∨ bytes.length < size then
    throw (.badSize size bytes.length)
  let event ← readEvent code (bytes.take size).toArray
  return (event, size)

/-- A record read from among others. -/
structure Placed where
  /-- The position of the record. -/
  offset : Nat
  size : Nat
  event : Event
deriving DecidableEq, Repr

/-- What reading records back to back comes to. -/
structure Reading where
  /-- The records read, in order. -/
  records : List Placed
  /-- Why reading stopped before the end, if it did. -/
  failure : Option DecodeError
deriving DecidableEq, Repr

/-- Reads on from position `offset`; `read` holds the records read so far, last first. -/
def readFrom (offset : Nat) (read : List Placed) (bytes : List UInt8) : Reading :=
  if bytes = [] then ⟨read.reverse, none⟩
  else match decode bytes with
    | .error why => ⟨read.reverse, some why⟩
    | .ok (event, size) =>
      if _h : 0 < size ∧ 0 < bytes.length then
        readFrom (offset + size) (⟨offset, size, event⟩ :: read) (bytes.drop size)
      else ⟨read.reverse, none⟩
termination_by bytes.length
decreasing_by simp only [List.length_drop]; omega

/-- Reads records from the start of some bytes to their end or to the first failure. -/
def readAll (bytes : List UInt8) : Reading := readFrom 0 [] bytes

end Testbench.Record
