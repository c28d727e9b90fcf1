import Testbench.Bytes
import Testbench.Driver.Call

/-!
# Requests to the device

A client talks to the device in requests: a code that says what is wanted, an input, and a buffer
for the output. The layouts of what goes in and comes out are here, in little-endian words:

* to query a module, its address, two words; if the output is too small for the image, a word with
  the size of the image comes out instead;
* to list modules, nothing; out come the number of connected drivers and a zero, a word each, and as
  many addresses as fit;
* to call a routine, a `CallRequest`; out come a `CallResponse` and the records of the events.
-/

namespace Testbench

/-- What a client wants from the device. -/
inductive ControlCode
  /-- The image of a driver's module. -/
  | query
  /-- The addresses of the drivers. -/
  | list
  /-- A call of a routine. -/
  | call
deriving DecidableEq, Repr

namespace ControlCode

/-- The number of a function of the device, with the device type 0x22 and access for reading and
writing around it. -/
def number (function : UInt32) : UInt32 :=
  (0x22 : UInt32) <<< 16 ||| (3 : UInt32) <<< 14 ||| function <<< 2

/-- The number that stands for a code. -/
def code : ControlCode → UInt32
  | query => number 0x801
  | list => number 0x802
  | call => number 0x803

/-- The code that a number stands for. -/
def ofCode? (value : UInt32) : Option ControlCode :=
  [query, list, call].find? fun c => c.code = value

end ControlCode

/-- What it takes to call a routine of a driver. -/
structure CallRequest where
  /-- The address of the driver. -/
  address : UInt64
  /-- The key of the fixture. -/
  fixture : UInt16
  /-- The key of the routine. -/
  routine : UInt16
  /-- The code of the answer to failed assertions. -/
  failedAssertion : UInt32
  /-- The code of the answer to uncaught exceptions. -/
  uncaughtException : UInt32
  /-- The value that the filament of the call starts with. -/
  value : UInt64
deriving DecidableEq, Repr

namespace CallRequest

/-- The bytes of a request. -/
def bytes (r : CallRequest) : List UInt8 :=
  le64 r.address ++ le16 r.fixture ++ le16 r.routine ++ le32 r.failedAssertion
    ++ le32 r.uncaughtException ++ le32 0 ++ le64 r.value

/-- The request at the start of some bytes. -/
def ofBytes? (bytes : List UInt8) : Option CallRequest := do
  let head := (bytes.take 32).toArray
  return {
    address := ← word64 0 head
    fixture := ← word16 8 head
    routine := ← word16 10 head
    failedAssertion := ← word32 12 head
    uncaughtException := ← word32 16 head
    value := ← word64 24 head }

end CallRequest

/-- What comes back from a call. -/
structure CallResponse where
  /-- Whether the routine and its threads ran to their end. -/
  completed : Bool
  /-- Whether the run is to stop. -/
  aborts : Bool
  /-- The number of events. -/
  eventCount : UInt32
  /-- Whether events were dropped. -/
  truncated : Bool
  /-- The value that the filament of the call ended with. -/
  value : UInt64
deriving DecidableEq, Repr

namespace CallResponse

/-- The number of bytes that a response takes. -/
def size : Nat := 24

/-- A truth value as a byte. -/
def bit (b : Bool) : UInt8 := if b then 1 else 0

/-- The bytes of a response. -/
def bytes (r : CallResponse) : List UInt8 :=
  [bit r.completed, bit r.aborts] ++ le16 0 ++ le32 r.eventCount
    ++ le32 (bit r.truncated).toUInt32 ++ le32 0 ++ le64 r.value

/-- The response at the start of some bytes. -/
def ofBytes? (bytes : List UInt8) : Option CallResponse := do
  let head := (bytes.take size).toArray
  let (completed : UInt8) ← head[0]?
  let (aborts : UInt8) ← head[1]?
  let flags ← word32 8 head
  return {
    completed := completed != 0
    aborts := aborts != 0
    eventCount := ← word32 4 head
    truncated := flags &&& 1 != 0
    value := ← word64 16 head }

end CallResponse

end Testbench
