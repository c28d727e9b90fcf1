import Testbench.Driver.Client
import Testbench.Run.InWorld

/-!
# The sample modules

Two modules that come with the runner: one for programs, with fixtures that pass and fixtures that
fail, and one for a driver. The routines of the first share a counter and report through the shared
registry; those of the second report through the sink of the driver.
-/

namespace Testbench.Runner

open World

/-- A routine of the sample module for programs. -/
inductive ProgramRoutine
  /-- Sets the counter to one. -/
  | setCounter
  /-- Expects the counter to be positive. -/
  | checkCounter
  /-- Adds one to the counter. -/
  | increments
  /-- Has four child threads add one to the counter. -/
  | childThreads
  /-- Sets the value of the filament and reads it back. -/
  | perTestValue
  /-- Sets the counter to zero. -/
  | clearCounter
  /-- Compares two words that differ. -/
  | failedAssertion
  | panics
  /-- Cannot decide. -/
  | inconclusive
  /-- Reports from a thread that nobody bound. -/
  | worker
deriving DecidableEq, Repr

/-- A routine of the sample module for a driver. -/
inductive DriverRoutine
  /-- Reports a message. -/
  | passes
  /-- Compares two words that differ. -/
  | compares
  /-- Reports from a thread of its own. -/
  | systemThread
deriving DecidableEq, Repr

/-- A routine that the runner runs. -/
inductive Sample
  | program (r : ProgramRoutine)
  /-- Of a driver, with its sink. -/
  | driver (sink : Sink) (r : DriverRoutine)
  /-- Of a driver, called through a client. -/
  | remote (r : RemoteRoutine)

/-- What the routines share. -/
structure Tally where
  counter : UInt32 := 0

namespace Sample

/-- A computation of the runner. -/
abbrev Play (α : Type) : Type := Act Sample Tally α

/-- The registry that everybody shares. -/
def sharedRegistry : RegistryId := 0

/-- The file that the samples are said to stand in. -/
def file : String := "harness/harness_run/src/sample.rs"

/-- The routine that the samples for programs are said to stand in. -/
def home : String := "harness_run::sample"

/-- A line of the samples for programs. -/
def site (line : UInt32) : Site := ⟨file, home, line⟩

/-! ### Reporting -/

/-- Breaks if that is the answer. -/
def heed (d : Disposition) : Play Unit :=
  if d = .breakIn then Report.debugBreak else return ()

/-- Acts on a verdict, and breaks if that is the answer. -/
def obey (v : Verdict) : Play Unit := do heed (← v.apply)

/-- Reports that an assertion does not hold, if so. -/
def check (holds : Bool) (line : UInt32) (expression : String) : Play Unit := do
  if !holds then obey (← Report.assertion sharedRegistry (site line) expression)

/-- Compares two words. -/
def checkEqual (expected actual : UInt32) (line : UInt32) (expression : String) : Play Unit := do
  obey (← Report.comparison sharedRegistry expected actual (site line) expression)

/-- Reports a message. -/
def log (message : String) : Play Unit := do
  let _ ← (← Report.log sharedRegistry message).apply

/-- Reports that a routine cannot decide. -/
def inconclusive (message : String) : Play Unit := do
  let _ ← (← Report.inconclusiveness sharedRegistry message).apply

/-! ### The counter -/

/-- The counter. -/
def counter : Play UInt32 := seeStore Tally.counter

/-- Sets the counter. -/
def setCounter (n : UInt32) : Play Unit := changeStore fun _ => ⟨n⟩

/-- Adds one to the counter. Answers what it was before. -/
def increment : Play UInt32 := onStore fun s => (s.counter, ⟨s.counter + 1⟩)

/-! ### Routines -/

/-- Starts child threads, and reports each that was not started. -/
def startChildren : Nat → Play (List Child.Ticket)
  | 0 => return []
  | n + 1 => do
    match ← Child.start sharedRegistry with
    | .ok k => return k :: (← startChildren n)
    | .error why =>
      check false 53 ("spawn failed: " ++ Text.message why)
      startChildren n

/-- Waits for child threads that each add one to the counter. -/
def joinChildren : List Child.Ticket → Play Unit
  | [] => return ()
  | k :: rest => do
    let payload ← Child.finish k do let _ ← increment
    check payload.isNone 58 "joined"
    joinChildren rest

/-- What a routine for programs does. -/
def runProgram : ProgramRoutine → Play Unit
  | .setCounter => setCounter 1
  | .checkCounter => do check (0 < (← counter)) 35 "counter > 0"
  | .increments => do
    let previous ← increment
    checkEqual (previous + 1) (← counter) 41 "counter"
  | .childThreads => do
    joinChildren (← startChildren 4)
    log ("counter at " ++ toString (← counter).toNat)
  | .perTestValue => do
    match ← Report.setValue sharedRegistry true .ordinary 7 with
    | .ok () => pure ()
    | .error _ => inconclusive "no filament"
    match ← Report.value sharedRegistry true .ordinary with
    | .ok v => check (v == 7) 67 "value == 7"
    | .error _ => check false 67 "value == 7"
  | .clearCounter => setCounter 0
  | .failedAssertion => checkEqual 41 (6 * 7) 75 "answer"
  | .panics => panicking (some "unexpected state")
  | .inconclusive => inconclusive "needs hardware"
  | .worker => do
    let payload ← Child.anonymous (← newThread) (log "hello from a worker")
    check payload.isNone 85 "joined"

/-- What a routine for a driver does. -/
def runDriver (s : Sink) : DriverRoutine → Play Unit
  | .passes => s.log "running at passive level"
  | .compares => do let _ ← s.comparison 4 3 ⟨file, "Compares", 104⟩ "value"
  | .systemThread => do
    match ← s.startThread with
    | .ok k => let _ ← Child.finish k (s.log "system thread running")
    | .error _ => let _ ← s.assertion ⟨file, "SystemThread", 115⟩ "create_system_thread"

/-- Runs a routine, with room for routines to nest so deep. -/
def exec : Nat → Sample → Play Unit
  | 0, _ => Flow.exhaust
  | _ + 1, .program r => runProgram r
  | _ + 1, .driver s r => runDriver s r
  | depth + 1, .remote r => r.run (exec depth)

/-- Runs a routine; those that are called through a client come to another one. -/
def run (r : Sample) : Play Unit := exec 2 r

/-! ### Modules -/

/-- A test case for programs. -/
def programCase (name : String) (r : ProgramRoutine) : TestCase Sample := ⟨name, .program r⟩

/-- The sample module for programs. -/
def programModule : Module Sample := .ofFixtures "sample" [
  { name := "Counter"
    setup := some (.program .setCounter)
    teardown := some (.program .clearCounter)
    before := some (.program .checkCounter)
    after := none
    cases := [programCase "Increments" .increments, programCase "ChildThreads" .childThreads,
      programCase "PerTestValue" .perTestValue]
    flags := {}
    home := none },
  { Fixture.blank "Failures" with
    cases := [programCase "FailedAssertion" .failedAssertion, programCase "Panic" .panics,
      programCase "Inconclusive" .inconclusive] },
  { Fixture.blank "AnonymousThreads" with
    cases := [programCase "Worker" .worker]
    flags := ({} : FixtureFlags).withAnonymousThreads true }]

/-- The sample module for a driver that reports through a sink. -/
def driverModule (s : Sink) : Module Sample := .ofFixtures "sample_driver" [
  { Fixture.blank "Driver" with
    cases := [⟨"Passes", .driver s .passes⟩, ⟨"Compares", .driver s .compares⟩,
      ⟨"SystemThread", .driver s .systemThread⟩] }]

end Sample

end Testbench.Runner
