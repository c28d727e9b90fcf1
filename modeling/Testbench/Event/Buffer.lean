import Testbench.Event.Record

/-!
# Event buffers

A buffer of bounded size that collects event records. A record that does not fit is dropped as a
whole and the buffer remembers that it happened; a later and smaller record may fit again.
-/

namespace Testbench

/-- Records back to back, in a bounded number of bytes. -/
structure EventBuffer where
  /-- The records. -/
  data : Array UInt8
  /-- How many bytes they may take. -/
  capacity : Nat
  /-- How many there are. -/
  count : UInt32
  /-- Whether a record was dropped. -/
  truncated : Bool
deriving Repr

namespace EventBuffer

/-- A buffer without records. -/
def empty (capacity : Nat) : EventBuffer := ⟨#[], capacity, 0, false⟩

/-- Appends the record of an event if it fits, and answers whether it did. -/
def queue (b : EventBuffer) (e : Event) : Bool × EventBuffer :=
  let record := Record.encode e
  if b.capacity - b.data.size < record.length then (false, { b with truncated := true })
  else (true, { b with data := b.data ++ record, count := b.count + 1 })

/-- The bytes of the records. -/
def bytes (b : EventBuffer) : List UInt8 := b.data.toList

end EventBuffer

end Testbench
