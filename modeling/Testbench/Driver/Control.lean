import Testbench.Catalog.Image
import Testbench.Driver.Request

/-!
# The device at work

`control` does what a request asks for and says what becomes of the output buffer: how many bytes of
it were written, always from its start on, and what is in it afterwards. A request that fails leaves
the buffer as it was, and so does one out of which a routine unwinds; `exchange` shows all three
endings side by side.
-/

namespace Testbench

/-- A part of a request. -/
inductive ControlParameter
  | inputSize
  | outputSize
  /-- An answer to events. -/
  | disposition
  /-- The address of the driver. -/
  | address
deriving DecidableEq, Repr

/-- What is wrong with a part of a request. -/
def ControlParameter.text : ControlParameter → String
  | inputSize => "input buffer too small"
  | outputSize => "output buffer too small"
  | disposition => "disposition"
  | address => "driver base address"

/-- Why a request failed. -/
inductive ControlError
  /-- A part of it is wrong. -/
  | invalidParameter (what : ControlParameter)
  /-- The number is no code. -/
  | unknownCode (code : UInt32)
  /-- There is no such driver. -/
  | lookup (why : TableError)
  /-- The routine was not called. -/
  | call (why : CallError)
deriving DecidableEq, Repr

instance : Text.Explained ControlError where
  cause
    | .invalidParameter what => ⟨"InvalidParameter", "invalid parameter: " ++ what.text⟩
    | .unknownCode code =>
      ⟨"InvalidDeviceRequest", "unknown control code " ++ Text.hex code.toNat⟩
    | .lookup _ => ⟨"Registry", "driver lookup failed"⟩
    | .call _ => ⟨"Connection", "routine call failed"⟩
  sources
    | .lookup why => Text.explain why
    | .call why => Text.explain why
    | _ => []

/-- Whether an output buffer held all there was to say. -/
inductive ControlStatus
  /-- It did. -/
  | success
  /-- It did not; what was written says how much room it takes. -/
  | overflow
deriving DecidableEq, Repr

/-- How a request was completed. -/
structure Completion where
  /-- Whether the buffer held everything. -/
  status : ControlStatus
  /-- How many bytes were written. -/
  written : Nat
  /-- The buffer afterwards. -/
  output : List UInt8
deriving DecidableEq, Repr

namespace Completion

/-- Writes some bytes to the start of a buffer. -/
def writing (status : ControlStatus) (bytes output : List UInt8) : Completion :=
  ⟨status, bytes.length, bytes ++ output.drop bytes.length⟩

end Completion

namespace Driver

open World

variable {ρ ε : Type}

/-- Writes the image of a module, or its size if the buffer is too small for it. -/
def writeImage (k : Keyed ρ) (output : List UInt8) : Except ControlError Completion :=
  match Image.writeInto k output with
  | .ok (written, output) => .ok ⟨.success, written, output⟩
  | .error e =>
    if output.length < 4 then .error (.invalidParameter .outputSize)
    else .ok (.writing .overflow (le32 (UInt32.ofNat e.required)) output)

/-- Queries the module of a driver. -/
def query (input output : List UInt8) : Act ρ ε (Except ControlError Completion) := do
  match word64 0 (input.take 8).toArray with
  | none => return .error (.invalidParameter .inputSize)
  | some address =>
    match ← lookup address with
    | .error why => return .error (.lookup why)
    | .ok c =>
      let written ← seeDevice fun d => match d.get? c with
        | some connection => writeImage connection.routines output
        | none => .error (.lookup (.notFound address))
      release c
      return written

/-- What a listing looks like: how many addresses there are, and those that were written. -/
def listBytes (l : Listing) : List UInt8 :=
  le32 (UInt32.ofNat l.available) ++ le32 0 ++ l.written.flatMap le64

/-- Lists the addresses of the drivers. -/
def list (output : List UInt8) : Act ρ ε (Except ControlError Completion) := do
  if output.length < 16 then return .error (.invalidParameter .outputSize)
  let listing ← onDevice fun d => (d.list ((output.length - 8) / 8), d)
  return .ok (.writing (if listing.isComplete then .success else .overflow) (listBytes listing)
    output)

/-- The answers to events that a request asks for. -/
def dispositionsOf (r : CallRequest) : Except InvalidCode Dispositions := do
  return ⟨← Disposition.ofCode? r.failedAssertion, ← Disposition.ofCode? r.uncaughtException⟩

/-- What comes back from a call together with its events. -/
def responseOf (r : CallResult) (events : EventBuffer) : CallResponse :=
  ⟨r.completed, r.aborts, events.count, events.truncated, r.value⟩

/-- Takes the events out of the channel of a call. -/
def takeEvents (channel : ObserverId) : Act ρ ε EventBuffer :=
  tell channel (.empty 0) fun
    | .channel c => let (events, c) := c.take; (events, .channel c)
    | o => (.empty 0, o)

/-- Finds the driver of a request and calls the routine. Nobody holds the connection for it
afterwards. -/
def callAt (exec : Routines ρ ε) (r : CallRequest) (channel : ObserverId) :
    Act ρ ε (Except ControlError CallResult) := do
  match ← lookup r.address with
  | .error why => return .error (.lookup why)
  | .ok c =>
    match ← (call exec c r.fixture r.routine channel r.value).ensuring (release c) with
    | .error why => return .error (.call why)
    | .ok result => return .ok result

/-- Calls a routine of a driver. Its events have the room in the buffer that the response leaves. -/
def callRoutine (exec : Routines ρ ε) (input output : List UInt8) :
    Act ρ ε (Except ControlError Completion) := do
  match CallRequest.ofBytes? input with
  | none => return .error (.invalidParameter .inputSize)
  | some request =>
    if request.address = 0 then return .error (.invalidParameter .address)
    match dispositionsOf request with
    | .error _ => return .error (.invalidParameter .disposition)
    | .ok dispositions =>
      if output.length < CallResponse.size then return .error (.invalidParameter .outputSize)
      let channel ← newObserver
        (.channel (.make dispositions (output.length - CallResponse.size)))
      match ← callAt exec request channel with
      | .error why => return .error why
      | .ok result =>
        let events ← takeEvents channel
        return .ok (.writing .success ((responseOf result events).bytes ++ events.bytes) output)

/-- Does what a request asks for. -/
def control (exec : Routines ρ ε) (code : UInt32) (input output : List UInt8) :
    Act ρ ε (Except ControlError Completion) :=
  match ControlCode.ofCode? code with
  | some .query => query input output
  | some .list => list output
  | some .call => callRoutine exec input output
  | none => return .error (.unknownCode code)

/-- What one who makes a request finds afterwards. -/
structure Exchange where
  /-- The payload if a routine unwound; else why the request failed, or its status and the number of
  bytes written. -/
  result : Except Payload (Except ControlError (ControlStatus × Nat))
  /-- The buffer. -/
  output : List UInt8

/-- What becomes of a request and its buffer. -/
def exchange (exec : Routines ρ ε) (code : UInt32) (input output : List UInt8) :
    Act ρ ε Exchange := do
  match ← (control exec code input output).attempt with
  | .error payload => return ⟨.error payload, output⟩
  | .ok (.error why) => return ⟨.ok (.error why), output⟩
  | .ok (.ok completion) =>
    return ⟨.ok (.ok (completion.status, completion.written)), completion.output⟩

end Driver

end Testbench
