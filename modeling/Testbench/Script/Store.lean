import Testbench.Bookshelf
import Testbench.Run.InWorld
import Testbench.Script.Step
import Testbench.Script.Trace

/-!
# What scripted routines share

Scripted routines leave entries in a trace, have their calls counted, start threads that stay behind
and use what the scenario gives names to: modules, actions, recorders, drivers and held connections.
All of it is in the store of their world, the scene.
-/

namespace Testbench.Script

/-- What the steps of a body have in common. -/
structure Scope where
  /-- The way in which they report. -/
  path : Path
  /-- Which call of the routine this is. -/
  call : Nat

/-- A thread that stays after its steps. -/
structure Lingerer where
  thread : ThreadId
  /-- For a child thread its ticket, and whether panics left their stack behind before. -/
  ticket : Option (Child.Ticket × Bool)
  /-- What its steps had in common. -/
  scope : Scope
  /-- The steps with which it ends. -/
  last : List Step

/-- A routine that is to wait while its driver is being disconnected. -/
inductive Parking
  /-- Nobody is to wait. -/
  | idle
  /-- The first routine that can is to wait. -/
  | awaited (c : ConnectionId)
  /-- A routine waited, and saw its driver available or not. -/
  | parked (available : Bool)
deriving DecidableEq, Repr

/-- What scripted routines share. -/
structure Store where
  trace : Array Entry := #[]
  /-- How often each routine was called. -/
  calls : Pool Nat := .empty
  /-- The threads that stay, in the order in which they came to. -/
  lingering : List Lingerer := []
  /-- The recorders. -/
  watchers : Names Watcher := {}
  /-- The plan that all actions belong to. -/
  plan : Plan (Job Routine) := {}
  actions : Names ActionId := {}
  modules : Names (Module Routine) := {}
  /-- The connected drivers. -/
  drivers : Names ConnectionId := {}
  /-- The connections that are held. -/
  held : Names ConnectionId := {}
  /-- Who is to wait for a disconnection. -/
  parking : Parking := .idle
  /-- How many bytes the events of a call may take for clients from now on. -/
  eventBuffer : Nat := 64 * 1024

instance : Bookshelf Store where
  watchers := Store.watchers
  withWatchers s watchers := { s with watchers }

/-- The world of scripted routines. -/
abbrev Scene : Type := World Routine Store

/-- A computation on the scene. -/
abbrev Play (α : Type) : Type := World.Act Routine Store α

open World

/-- The registry of the scenario. -/
def ownRegistry : RegistryId := 0

/-- The registry that everybody shares. -/
def sharedRegistry : RegistryId := 1

/-- A scene in which nothing has happened. -/
def Scene.start : Scene :=
  { store := {}, roster := { registries := ⟨#[⟨.program, {}, none⟩, ⟨.program, {}, none⟩]⟩ } }

/-- How deep routines and plans may nest. -/
def room : Nat := 256

/-- Leaves an entry in the trace. -/
def leave (word : Word) (note : Note) : Play Unit :=
  changeStore fun s => { s with trace := s.trace.push ⟨word, note⟩ }

/-- Takes the entries out of the trace. -/
def takeTrace : Play (List Entry) :=
  onStore fun s => (s.trace.toList, { s with trace := #[] })

/-- Counts one more call of a routine. Answers how many there were before. -/
def countCall (id : RoutineId) : Play Nat := onStore fun s =>
  let (n, calls) := s.calls.update id 0 fun n => (n, n + 1)
  (n, { s with calls })

/-- Adds an action to a sequence, by their names. Answers how long the sequence is then. -/
def addToSequence (sequence action : String) : Play (Except PlanError Extent) := do
  match ← seeStore fun s => (s.actions.get? sequence, s.actions.get? action) with
  | (some s, some a) =>
    match ← onStore fun store =>
        let (result, plan) := store.plan.add s a
        (result, { store with plan }) with
    | .error why => return .error why
    | .ok () =>
      let items ← seeStore (·.plan.items s)
      return .ok ⟨items.length, items.isEmpty⟩
  | _ => return .ok ⟨0, true⟩

/-- Runs an action by its name before the recorder of a name. -/
def runAction (exec : Routine → Play Unit) (action recorder : String) : Play RunResult := do
  let o ← Bookshelf.recorder recorder
  match ← seeStore (·.actions.get? action) with
  | none => return .ok (.ok ())
  | some id =>
    (Plan.run (fun i => seeStore (·.plan.actions.get? i)) (fun j => j.perform exec o) room
      id).attempt

/-- Finds the connection for a call, and takes a reference to it. -/
def connectionFor (plan : CallPlan) : Play (Except TableError ConnectionId) := do
  match ← seeStore fun s => plan.held.bind s.held.get? with
  | none => Driver.lookup plan.address
  | some c =>
    changeDevice (·.modify c .retain)
    return .ok c

/-- Calls a routine through a connection, with a channel of its own. -/
def callConnection (exec : Routine → Play Unit) (c : ConnectionId) (plan : CallPlan) :
    Play CallAnswer := do
  let channel ← newObserver (.channel (.make plan.dispositions plan.capacity))
  let result ← (Driver.call exec c plan.fixture plan.routine channel plan.value).attempt
  let events ← Driver.takeEvents channel
  return ⟨result, events.count, events.truncated, Record.readAll events.bytes, ← level⟩

/-- Calls a routine of a driver. -/
def callDriver (exec : Routine → Play Unit) (plan : CallPlan) : Play CallReply := do
  match ← connectionFor plan with
  | .error why => return .error why
  | .ok c =>
    let answer ← callConnection exec c plan
    Driver.release c
    return .ok answer

/-- Waits if somebody is to, and sees whether the driver is available meanwhile. -/
def park : Play Unit := do
  match ← seeStore Store.parking with
  | .awaited c =>
    let available ← seeDevice (·.isAvailable c)
    changeStore fun s => { s with parking := .parked available }
  | .idle | .parked _ => return ()

end Testbench.Script
