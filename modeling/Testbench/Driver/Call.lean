import Testbench.Driver.Sink

/-!
# Connecting drivers and calling them

A driver connects with an address, the version of the sink it wants, and a function that makes its
module once it has the sink. From then on its routines can be called by their keys: on the calling
thread, in a filament of the driver's own registry, whose observer is the channel of the call. The
call holds the unload lock until it is over, and it gives the level of its thread back. When the
routine is over other threads may still be at work, and they have their turns before the call stops
waiting for them.
-/

namespace Testbench

/-- Why a driver was not connected. -/
inductive ConnectError
  /-- There is no driver at zero. -/
  | invalidAddress
  /-- There is no such sink. -/
  | sink (why : SinkError)
  /-- The module cannot be numbered. -/
  | module (why : Keyed.Refusal)
  /-- The connection was not filed. -/
  | table (why : TableError)
deriving DecidableEq, Repr

instance : Text.Explained ConnectError where
  cause
    | .invalidAddress => ⟨"InvalidAddress", "invalid load address"⟩
    | .sink _ => ⟨"Sink", "unsupported report sink"⟩
    | .module _ => ⟨"Adapter", "invalid test module"⟩
    | .table _ => ⟨"Registry", "failed to register connection"⟩
  sources
    | .invalidAddress => []
    | .sink why => Text.explain why
    | .module why => Text.explain why
    | .table why => Text.explain why

/-- Why a routine was not called. -/
inductive CallError
  /-- The keys name no routine. -/
  | noRoutine (fixture routine : UInt16)
  /-- The driver has let go of its connection. -/
  | unavailable
  /-- The thread could not be bound. -/
  | filament (why : FilamentError)
deriving DecidableEq, Repr

instance : Text.Explained CallError where
  cause
    | .noRoutine fixture routine =>
      ⟨"EntryPointNotFound", "no routine " ++ toString routine.toNat ++ " in fixture "
        ++ toString fixture.toNat⟩
    | .unavailable => ⟨"Unavailable", "driver is unloading"⟩
    | .filament _ => ⟨"Filament", "failed to bind routine thread"⟩
  sources
    | .filament why => Text.explain why
    | _ => []

/-- What a call came to. -/
structure CallResult where
  /-- Whether the routine and its threads ran to their end. -/
  completed : Bool
  /-- Whether the run is to stop. -/
  aborts : Bool
  /-- The value of the filament afterwards. -/
  value : UInt64
deriving DecidableEq, Repr

/-- What routines do. Where a call is about to wait for other threads, they have a turn. -/
structure Routines (ρ ε : Type) where
  /-- What a routine does, and whatever others do until it is over. -/
  run : ρ → World.Act ρ ε Unit
  /-- What others do when they have a turn. -/
  others : World.Act ρ ε Unit := return ()

instance {ρ ε : Type} : CoeFun (Routines ρ ε) fun _ => ρ → World.Act ρ ε Unit := ⟨Routines.run⟩

/-- Routines whose threads have nothing left to do when they are over. -/
instance {ρ ε : Type} : Coe (ρ → World.Act ρ ε Unit) (Routines ρ ε) := ⟨fun run => { run }⟩

/-- Others have a turn. How it ends is nothing to the running thread. -/
def Routines.turn {ρ ε : Type} (exec : Routines ρ ε) : World.Act ρ ε Unit := do
  let _ ← exec.others.attempt
  return ()

namespace Driver

open World

variable {ρ ε : Type}

/-- Connects a driver. -/
def connect (address : UInt64) (version : UInt32) (init : Sink → Act ρ ε (Module ρ)) :
    Act ρ ε (Except ConnectError ConnectionId) := do
  if address = 0 then return .error .invalidAddress
  let registry ← onRoster (·.newRegistry .driver)
  match Sink.make version registry with
  | .error why => return .error (.sink why)
  | .ok sink =>
    match Keyed.ofModule? (← init sink) with
    | .error why => return .error (.module why)
    | .ok routines =>
      let joinLimit ← seeDevice Device.joinLimit
      let c ← Flow.step fun w =>
        let (c, device) := w.device.make
          { address, routines, registry, sinkVersion := version, joinLimit }
        (c, { w with device })
      match ← onDevice (·.register c) with
      | .ok () => return .ok c
      | .error why =>
        changeDevice (·.release c)
        return .error (.table why)

/-- Finds the driver at an address and takes a reference to its connection. -/
def lookup (address : UInt64) : Act ρ ε (Except TableError ConnectionId) :=
  onDevice (·.lookup address)

/-- Gives a reference back. -/
def release (c : ConnectionId) : Act ρ ε Unit := changeDevice (·.release c)

/-- Lets a driver go. -/
def disconnect (c : ConnectionId) : Act ρ ε Unit := changeDevice (·.disconnect c)

/-- Changes a connection. -/
def modify (c : ConnectionId) (f : Connection ρ → Connection ρ) : Act ρ ε Unit :=
  Flow.change fun w => { w with device := w.device.modify c f }

/-- Restores the level that a thread had when it entered a routine, and if the routine left another
one puts that on record in the channel. -/
def restoreLevel (channel : ObserverId) (entry : Irql) : Act ρ ε Unit := do
  let exit ← level
  if exit ≠ entry then
    inform channel (·.queue (.note
      ("Routine returned at " ++ exit.text ++ ", restoring " ++ entry.text)))
    setLevel entry

/-- Calls a routine of a driver that holds its unload lock: binds the running thread, runs the
routine under its boundary, and waits for its threads. -/
def callProtected (exec : Routines ρ ε) (registry : RegistryId) (limit : Duration)
    (routine : ρ) (channel : ObserverId) (value : UInt64) :
    Act ρ ε (Except CallError CallResult) := do
  let f ← newFilament channel {}
  changeFilament f (·.setValue .ordinary value)
  match ← attach registry f with
  | .error why => return .error (.filament why)
  | .ok () =>
    let i ← identityIn f
    let entry ← level
    let caught ← Boundary.guard f i (exec routine)
    exec.turn
    restoreLevel channel entry
    exec.turn
    let o ← Boundary.settle f i limit caught.toOutcome
    let value ← seeFilament f 0 (·.value .ordinary)
    detach registry
    Boundary.goOn caught.payload?
    return .ok ⟨o = .completed, o = .aborted, value⟩

/-- Where others have nothing to do, the call goes on at once. -/
theorem callProtected_alone (exec : ρ → Act ρ ε Unit) (registry : RegistryId) (limit : Duration)
    (routine : ρ) (channel : ObserverId) (value : UInt64) :
    callProtected exec registry limit routine channel value = (do
      let f ← newFilament channel {}
      changeFilament f (·.setValue .ordinary value)
      match ← attach registry f with
      | .error why => return .error (.filament why)
      | .ok () =>
        let i ← identityIn f
        let entry ← level
        let caught ← Boundary.guard f i (exec routine)
        restoreLevel channel entry
        let o ← Boundary.settle f i limit caught.toOutcome
        let value ← seeFilament f 0 (·.value .ordinary)
        detach registry
        Boundary.goOn caught.payload?
        return .ok ⟨o = .completed, o = .aborted, value⟩) := rfl

/-- Calls a routine of a driver. -/
def call (exec : Routines ρ ε) (c : ConnectionId) (fixture routine : UInt16)
    (channel : ObserverId) (value : UInt64) : Act ρ ε (Except CallError CallResult) := do
  modify c .enter
  let protectedCall : Act ρ ε (Except CallError CallResult) := do
    match ← seeDevice (·.get? c) with
    | none => return .error .unavailable
    | some connection =>
      if !connection.available then return .error .unavailable
      else match connection.routines.routine? fixture routine with
        | none => return .error (.noRoutine fixture routine)
        | some r =>
          callProtected exec connection.registry connection.joinLimit r channel value
  protectedCall.ensuring (modify c .leave)

end Driver

end Testbench
