import Testbench.Scenario.Answer
import Testbench.Scenario.Command
import Testbench.Script.Routine

/-!
# Scenarios

A scenario is carried out command by command. Threads that stay behind are let go at the end of the
command in which they came to stay, after what the command looks at was looked at; only the books of
a recorder are read later still.
-/

namespace Testbench.Scenario

open Script World

/-! ### Modules and actions -/

/-- A routine made of some steps. -/
def makeRoutine (path : Path) (steps : List Step) : Play Routine := do
  let id ← onStore fun s =>
    let (id, calls) := s.calls.add 0
    (id, { s with calls })
  return .scripted path id steps

/-- A module made of fixtures with steps for routines. -/
def makeModule (path : Path) (name : String) (fixtures : List FixtureScript) :
    Play (Module Routine) := do
  return .ofFixtures name (← fixtures.mapM (·.mapM (makeRoutine path)))

/-- Puts a module under a name. -/
def putModule (id : String) (m : Module Routine) : Play Unit :=
  changeStore fun s => { s with modules := s.modules.put id m }

/-- What looking a fixture and one of its test cases up comes to. -/
def findIn (m : Module Routine) (names : String × String) : Option Nat × Option String :=
  let fixture := m.findFixture? names.1
  let case? := do
    let f ← m.fixtures[← fixture]?
    let c ← f.cases[← f.findCase? names.2]?
    return c.name
  (fixture, case?)

/-- Shows a module. -/
def showCatalog (id : String) (lookups : List (String × String)) (inFull : Bool) :
    Play Answer := do
  match ← seeStore (·.modules.get? id) with
  | none => return .nothing
  | some m =>
    return .catalog m (lookups.map (findIn m)) (if inFull then some m.text else none)

/-- The fixture of an action. -/
def fixtureFrom (path : Path) : FixtureSource → Play (Option (Fixture Routine))
  | .module id index => seeStore fun s => (s.modules.get? id).bind fun m => m.fixtures[index]?
  | .standalone f => do return some (← f.mapM (makeRoutine path))

/-- Puts an action under a name. -/
def putAction (id : String) (a : Action (Job Routine)) : Play Unit := changeStore fun s =>
  let (i, plan) := s.plan.make a
  { s with plan, actions := s.actions.put id i }

/-- A run of a fixture, or of one of its test cases. -/
def fixtureRun (fixture : Fixture Routine) (options : ExecutionOptions) :
    Option String → Except RunError (FixtureRun Routine)
  | none => .ok { fixture, options }
  | some name => FixtureRun.select { fixture, options } name

/-- Makes an action that runs a fixture. -/
def makeAction (id : String) (source : FixtureSource) (path : Path) (options : ExecutionOptions)
    (selection : Option String) : Play Answer := do
  match ← fixtureFrom path source with
  | none => return .nothing
  | some fixture =>
    match fixtureRun fixture options selection with
    | .error why => return .error (Text.explain why)
    | .ok run =>
      putAction id (.leaf ⟨run, path.registry⟩)
      return .action fixture.name fixture.home.isSome

/-! ### Runs -/

/-- Runs an action. -/
def run (action recorder : String) : Play Answer := do
  let result ← runAction Routine.run action recorder
  let bound ← seeRoster fun r => (r.table ownRegistry).size
  let default ← seeRoster fun r => (r.default? ownRegistry).isSome
  let level ← level
  releaseLingering
  return .run ⟨result, bound, default, level, ← Bookshelf.read recorder⟩

/-- What becomes of something that may unwind. -/
def settled (p : Play Unit) : Play Answer := do
  match ← p.attempt with
  | .ok () => return .done
  | .error payload => return .unwound payload

/-- Calls the routine of a test case. -/
def callCase (id : String) (fixture case : Nat) : Play Answer := do
  let routine? ← seeStore fun s => do
    let m ← s.modules.get? id
    let f ← m.fixtures[fixture]?
    let c ← f.cases[case]?
    return c.routine
  match routine? with
  | none => return .nothing
  | some routine => settled routine.run

/-! ### Drivers -/

/-- Connects a driver. A driver that was connected under the name is let go. -/
def connect (id : String) (address : UInt64) (version : UInt32) (name : String)
    (fixtures : List FixtureScript) : Play Answer := do
  let init : Sink → Play (Module Routine) := fun sink => do
    leave .init (.number sink.version.toNat)
    makeModule (.sink sink) name fixtures
  match ← Driver.connect address version init with
  | .error why => return .error (Text.explain why)
  | .ok c =>
    match ← seeStore (·.drivers.get? id) with
    | none => pure ()
    | some previous => Driver.disconnect previous
    changeStore fun s => { s with drivers := s.drivers.put id c }
    match ← seeDevice (·.get? c) with
    | none => return .nothing
    | some x =>
      return .connection ⟨x.address, x.sinkVersion, x.available, x.routines.groups.size⟩

/-- Lets a driver go. -/
def disconnect (id : String) : Play Answer := do
  match ← seeStore (·.drivers.get? id) with
  | none => return .notConnected
  | some c =>
    changeStore fun s => { s with drivers := s.drivers.erase id }
    Driver.disconnect c
    return .done

/-- Looks a connection up and holds it. One that was held under the name is let go. -/
def hold (id : String) (address : UInt64) : Play Answer := do
  match ← Driver.lookup address with
  | .error why => return .error (Text.explain why)
  | .ok c =>
    match ← seeStore (·.held.get? id) with
    | none => pure ()
    | some previous => Driver.release previous
    changeStore fun s => { s with held := s.held.put id c }
    match ← seeDevice (·.get? c) with
    | none => return .nothing
    | some x => return .held x.address x.available

/-- Does something with a held connection. -/
def withHeld (id : String) (absent : Answer) (f : ConnectionId → Play Answer) : Play Answer := do
  match ← seeStore (·.held.get? id) with
  | none => return absent
  | some c => f c

/-- Lets a held connection go. -/
def release (id : String) : Play Answer :=
  withHeld id (.truth false) fun c => do
    changeStore fun s => { s with held := s.held.erase id }
    Driver.release c
    return .truth true

/-- Files a held connection. -/
def register (id : String) : Play Answer :=
  withHeld id .nothing fun c => do
    match ← onDevice (·.register c) with
    | .ok () => return .done
    | .error why => return .error (Text.explain why)

/-- Calls a routine on a thread of its own, through a connection. -/
def callApart (c : ConnectionId) (plan : CallPlan) : Play CallAnswer := do
  let t ← newThread
  let answer ← asThread t (callConnection Routine.run c plan)
  endThread t
  return answer

/-- Whether a routine waited, and whether it saw its driver available then. -/
def sawWhileParked : Parking → Option Bool
  | .parked available => some available
  | .idle | .awaited _ => none

/-- Disconnects a driver during a call. The routine of the call waits for that if it can, and since
the call holds the unload lock the driver is gone only after it; otherwise the driver goes when the
call is over. Either way somebody holds the connection and calls once more. -/
def overlap (id : String) (plan : CallPlan) : Play Answer := do
  match ← seeStore (·.drivers.get? id) with
  | none => return .notConnected
  | some c =>
    changeStore fun s => { s with drivers := s.drivers.erase id, parking := .awaited c }
    changeDevice (·.modify c .retain)
    let first ← callApart c plan
    let seen ← onStore fun s => (sawWhileParked s.parking, { s with parking := .idle })
    Driver.disconnect c
    let afterwards ← seeDevice (·.isAvailable c)
    let second ← callApart c plan
    Driver.release c
    return .overlap ⟨seen.isSome, seen.isNone, (seen.getD false, afterwards), first, second⟩

/-- What an output buffer is filled with before a request. -/
def filler : UInt8 := 0xcc

/-- The events in the output of a completed call. -/
def eventsOf (code : UInt32) (x : Driver.Exchange) : Option Record.Reading :=
  match x.result with
  | .ok (.ok (_, written)) =>
    if code = ControlCode.call.code then
      some (Record.readAll ((x.output.take written).drop CallResponse.size))
    else none
  | _ => none

/-- Makes a request to the device. -/
def control (code : UInt32) (input : List UInt8) (size : Nat) : Play Answer := do
  let x ← Driver.exchange Routine.run code input (List.replicate size filler)
  return .exchange x (eventsOf code x)

/-! ### Clients -/

/-- The client of the scenario. -/
def client : Play Client := do return ⟨ownRegistry, ← seeStore Store.eventBuffer⟩

/-- Loads the module of a driver. -/
def clientLoad (id : String) (address : UInt64) (name : String) : Play Answer := do
  match ← (← client).load Routine.run address name with
  | .error why => return .error (Text.explain why)
  | .ok m =>
    putModule id ⟨m.name, ← m.fixtures.mapM (·.mapM fun r => return .remote r)⟩
    return .done

/-- The answer to a client, or why there is none. -/
def clientAnswer {α : Type} (answer : α → Answer) : Except ClientError α → Answer
  | .ok a => answer a
  | .error why => .error (Text.explain why)

/-! ### Commands -/

/-- Does what a command says. -/
def perform : Command → Play Answer
  | .module id path name fixtures => do
    putModule id (← makeModule path name fixtures)
    return .done
  | .catalog id lookups inFull => showCatalog id lookups inFull
  | .recorder id settings => do
    let _ ← Bookshelf.make id settings
    return .done
  | .configure id settings => do
    Bookshelf.configure id settings
    return .done
  | .query id kind => do
    return .disposition (← tell (← Bookshelf.recorder id) .proceed fun x => (x.query kind, x))
  | .action id source path options selection => makeAction id source path options selection
  | .sequence id => do
    putAction id (.sequence [])
    return .done
  | .add sequence action => do
    match ← addToSequence sequence action with
    | .ok e => return .extent e
    | .error why => return .error (Text.explain why)
  | .run action recorder => run action recorder
  | .steps path steps => settled (runSteps ⟨path, 0⟩ steps)
  | .callCase id fixture case => callCase id fixture case
  | .joinLimit limit => do
    changeDevice fun d => { d with joinLimit := limit }
    return .done
  | .connect id address version name fixtures => connect id address version name fixtures
  | .disconnect id => disconnect id
  | .hold id address => hold id address
  | .available id => withHeld id .nothing fun c => do
    return .truth (← seeDevice (·.isAvailable c))
  | .release id => release id
  | .register id => register id
  | .unregister id address => withHeld id .done fun c => do
    changeDevice (·.unregister address c)
    return .done
  | .call plan => do return .call (← callDriver Routine.run plan)
  | .overlap id plan => overlap id plan
  | .control code input size => control code input size
  | .list slots => do return .listing (← onDevice fun d => (d.list slots, d)) slots
  | .count => do
    let n ← onDevice fun d => (d.addresses.length, d)
    return .extent ⟨n, n == 0⟩
  | .unload => do
    changeDevice (·.tearDown)
    return .done
  | .clientList => do return clientAnswer .addresses (← Client.list Routine.run)
  | .clientQuery address => do
    return clientAnswer .description (← Client.query Routine.run address)
  | .clientLoad id address name => clientLoad id address name
  | .eventBuffer size => do
    changeStore fun s => { s with eventBuffer := size }
    return .done
  | .level l => do
    lowerLevel .passive
    let _ ← raiseLevel l
    return .level (← level)

/-- Carries a command out, and lets go the threads that stayed meanwhile. -/
def conduct (c : Command) : Play Response := do
  let answer ← perform c
  releaseLingering
  return ⟨answer, ← takeTrace⟩

/-- Carries commands out one after the other. Where a command does not come to an end, neither does
the scenario: the responses so far are all there is. -/
def responses : List Command → Scene → List Response → List Response
  | [], _, done => done.reverse
  | c :: rest, scene, done =>
    match conduct c scene with
    | (.ok response, scene) => responses rest scene (response :: done)
    | (.error _, _) => done.reverse

end Scenario

/-- The responses to the commands of a scenario. -/
def scenario (commands : List Scenario.Command) : List Scenario.Response :=
  Scenario.responses commands .start []

end Testbench
