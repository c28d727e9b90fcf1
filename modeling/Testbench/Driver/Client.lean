import Testbench.Driver.Control

/-!
# Clients of drivers

A client knows the device by requests alone. It lists drivers and reads their catalogs, with buffers
that it enlarges as the device tells it to, and it makes a module of a catalog: a module of remote
routines, each of which is called through the device and passes what the driver reported on to the
observer of the thread that called it.
-/

namespace Testbench

/-- What is wrong with an answer of the device. -/
inductive ResponseFault
  /-- A list without a header. -/
  | listHeader
  /-- A list with part of an address. -/
  | list
  /-- A list that is longer each time. -/
  | growingList
  /-- No size of a catalog. -/
  | requiredSize
  /-- A catalog that is larger each time. -/
  | growingCatalog
  /-- A call without a response. -/
  | callHeader
deriving DecidableEq, Repr

/-- The fault in words. -/
def ResponseFault.text : ResponseFault → String
  | listHeader => "module list header"
  | list => "module list"
  | growingList => "module list keeps growing"
  | requiredSize => "required size"
  | growingCatalog => "catalog keeps growing"
  | callHeader => "call routine header"

/-- Why a client does not get what it wants. -/
inductive ClientError
  /-- A request failed. -/
  | control (why : ControlError)
  /-- The image of a module is none. -/
  | catalog (why : Image.DecodeError)
  /-- An answer is wrong. -/
  | response (what : ResponseFault)
deriving DecidableEq, Repr

instance : Text.Explained ClientError where
  cause
    | .control _ => ⟨"Ioctl", "device control failed"⟩
    | .catalog _ => ⟨"Catalog", "malformed test module"⟩
    | .response what => ⟨"Response", "malformed response: " ++ what.text⟩
  sources
    | .control why => Text.explain why
    | .catalog why => Text.explain why
    | .response _ => []

/-- A client of the device. -/
structure Client where
  /-- The registry of the threads that call remote routines. -/
  registry : RegistryId
  /-- How many bytes the events of a call may take. -/
  eventBuffer : Nat := 64 * 1024
deriving DecidableEq, Repr

/-- A routine of a driver as its client calls it. -/
structure RemoteRoutine where
  client : Client
  /-- The address of the driver. -/
  address : UInt64
  /-- The key of the fixture. -/
  fixture : UInt16
  /-- The key of the routine. -/
  routine : UInt16
deriving DecidableEq, Repr

/-- A buffer of zeros. -/
def blankBuffer (size : Nat) : List UInt8 := List.replicate size 0

namespace Client

open World

variable {ρ ε σ : Type}

/-- A way to make requests. -/
abbrev Port (σ : Type) : Type :=
  UInt32 → List UInt8 → List UInt8 → Flow σ (Except ControlError Completion)

/-- How often a client tries with a larger buffer. -/
def maxAttempts : Nat := 4

/-- The addresses that follow the header of a list. -/
def addressesIn (bytes : Array UInt8) : Nat → Nat → List UInt64
  | _, 0 => []
  | start, n + 1 =>
    match word64 start bytes with
    | some address => address :: addressesIn bytes (start + 8) n
    | none => []

/-- Lists drivers, with so many attempts and so many slots in the first. -/
def listWith (ask : Port σ) : Nat → Nat → Flow σ (Except ClientError (List UInt64))
  | 0, _ => return .error (.response .growingList)
  | attempts + 1, slots => do
    match ← ask ControlCode.list.code [] (blankBuffer (8 + slots * 8)) with
    | .error why => return .error (.control why)
    | .ok completion =>
      let bytes := completion.output.toArray
      match word32 0 bytes with
      | none => return .error (.response .listHeader)
      | some count =>
        match completion.status with
        | .success => return .ok (addressesIn bytes 8 (min count.toNat slots))
        | .overflow => listWith ask attempts count.toNat

/-- Lists drivers by requests that are made in some way. -/
def listOver (ask : Port σ) : Flow σ (Except ClientError (List UInt64)) :=
  listWith ask maxAttempts 4

/-- The addresses of the drivers. -/
def list (exec : Routines ρ ε) : Act ρ ε (Except ClientError (List UInt64)) :=
  listOver (Driver.control exec)

/-- Reads the catalog of a driver, with so many attempts and so large a buffer in the first. -/
def queryWith (ask : Port σ) (address : UInt64) :
    Nat → Nat → Flow σ (Except ClientError Image.ModuleInfo)
  | 0, _ => return .error (.response .growingCatalog)
  | attempts + 1, size => do
    match ← ask ControlCode.query.code (le64 address) (blankBuffer size) with
    | .error why => return .error (.control why)
    | .ok completion =>
      match completion.status with
      | .success =>
        match Image.decode (completion.output.take completion.written) with
        | .error why => return .error (.catalog why)
        | .ok info => return .ok info
      | .overflow =>
        match word32 0 (completion.output.take 4).toArray with
        | none => return .error (.response .requiredSize)
        | some required => queryWith ask address attempts required.toNat

/-- Reads the catalog of a driver by requests that are made in some way. -/
def queryOver (ask : Port σ) (address : UInt64) : Flow σ (Except ClientError Image.ModuleInfo) :=
  queryWith ask address maxAttempts 1024

/-- The catalog of a driver. -/
def query (exec : Routines ρ ε) (address : UInt64) :
    Act ρ ε (Except ClientError Image.ModuleInfo) :=
  queryOver (Driver.control exec) address

/-- The routine that an entry describes. -/
def routineOf (c : Client) (address : UInt64) (fixture : UInt16) (e : Image.EntryInfo) :
    RemoteRoutine := ⟨c, address, fixture, e.key⟩

/-- The fixture that a catalog describes. Of several routines that frame it in one role, the last
counts. -/
def fixtureOf (c : Client) (address : UInt64) (info : Image.FixtureInfo) : Fixture RemoteRoutine :=
  let routine := c.routineOf address info.key
  let last (role : Role) := (info.entries.reverse.find? (·.role = role)).map routine
  let cases := (info.entries.filter (·.role = .testCase)).map fun e => ⟨e.name, routine e⟩
  ⟨info.name, last .setup, last .teardown, last .before, last .after, cases, {}, none⟩

/-- The module that a catalog describes. -/
def moduleOf (c : Client) (address : UInt64) (name : String) (info : Image.ModuleInfo) :
    Module RemoteRoutine :=
  .ofFixtures name (info.fixtures.map (c.fixtureOf address))

/-- Loads the module of a driver under a name. -/
def load (exec : Routines ρ ε) (c : Client) (address : UInt64) (name : String) :
    Act ρ ε (Except ClientError (Module RemoteRoutine)) := do
  match ← query exec address with
  | .error why => return .error why
  | .ok info => return .ok (c.moduleOf address name info)

end Client

namespace RemoteRoutine

open World

variable {ρ ε : Type}

/-- The request that calls a routine: with the answers of the observer, and the value of the
filament. -/
def request (r : RemoteRoutine) (m : Member) : Act ρ ε CallRequest := do
  let o ← observerOf m.filament
  let failedAssertion ← tell o .proceed fun x => (x.query .failedAssertion, x)
  let uncaughtException ← tell o .proceed fun x => (x.query .uncaughtException, x)
  let value ← seeFilament m.filament 0 (·.value .ordinary)
  return ⟨r.address, r.fixture, r.routine, failedAssertion.code, uncaughtException.code, value⟩

/-- Tells the observer of a thread something. -/
def note (m : Member) (message : String) : Act ρ ε Unit := do
  let _ ← report (← observerOf m.filament) m.identity (.note message)

/-- Passes events on to the observer of a thread. -/
def forward (m : Member) : List Record.Placed → Act ρ ε Unit
  | [] => return ()
  | p :: rest => do
    let _ ← report (← observerOf m.filament) m.identity p.event
    forward m rest

/-- Takes over what came back from a call: the value, and the events with a word about those that
are missing. -/
def deliver (m : Member) (response : CallResponse) (events : List UInt8) : Act ρ ε Unit := do
  changeFilament m.filament (·.setValue .ordinary response.value)
  let reading := Record.readAll events
  forward m reading.records
  match reading.failure with
  | some why => note m ("Malformed event from driver: " ++ Text.message why)
  | none => pure ()
  if response.truncated then
    note m ("Event buffer full, only the first " ++ toString response.eventCount.toNat
      ++ " events were delivered")

/-- Calls the driver for a thread. -/
def callDriver (exec : Routines ρ ε) (r : RemoteRoutine) (m : Member) :
    Act ρ ε (Except ClientError CallResponse) := do
  let request ← r.request m
  match ← Driver.control exec ControlCode.call.code request.bytes
      (blankBuffer (CallResponse.size + r.client.eventBuffer)) with
  | .error why => return .error (.control why)
  | .ok completion =>
    let bytes := completion.output.take completion.written
    match CallResponse.ofBytes? bytes with
    | none => return .error (.response .callHeader)
    | some response =>
      deliver m response (bytes.drop CallResponse.size)
      return .ok response

/-- What a remote routine does: it comes out as the routine of the driver came out. -/
def run (exec : Routines ρ ε) (r : RemoteRoutine) : Act ρ ε Unit := do
  match ← membership r.client.registry false with
  | .error _ => Flow.unwind (.signal .threadTerminated)
  | .ok m =>
    match ← r.callDriver exec m with
    | .error why =>
      note m ("Calling the driver routine failed: " ++ Text.message why)
      Flow.unwind (.signal .failed)
    | .ok response =>
      if response.aborts then Flow.unwind (.signal .failedAbort)
      else if !response.completed then Flow.unwind (.signal .failed)

end RemoteRoutine

end Testbench
