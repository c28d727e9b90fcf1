import Testbench.Catalog
import Testbench.Flow
import Testbench.Run.Policy
import Testbench.Text.Duration

/-!
# Running a fixture

A fixture runs as setup, then each selected test case between what comes before and after it, then
teardown. This module says in which order routines and callbacks come; what they are is left to a
`Host`, and whether to go on to the policy. `FixtureRun.run` works with any host, on any state.
-/

namespace Testbench

/-- What the run of a fixture asks of its surroundings. -/
structure Host (σ ρ : Type) where
  /-- Whether the observer fits the contract. -/
  validate : Flow σ (Except ObserverError Unit)
  /-- A fixture starts; the observer may refuse. -/
  fixtureStarts : Fixture ρ → Flow σ (Except ObserverError Unit)
  /-- A fixture finished, completely or not. -/
  fixtureFinished : Fixture ρ → Bool → Flow σ Unit
  /-- A test case starts; the observer may refuse. -/
  caseStarts : Fixture ρ → TestCase ρ → Flow σ (Except ObserverError Unit)
  /-- A test case finished, completely or not. -/
  caseFinished : Fixture ρ → TestCase ρ → Bool → Flow σ Unit
  /-- Calls a routine. -/
  call : ρ → Flow σ (Except FilamentError Outcome)
  /-- Installs a default filament, which adopts the threads that nobody bound. -/
  installs : Fixture ρ → Flow σ (Except FilamentError FilamentId)
  /-- Waits for the threads that a default filament adopted. Answers whether all ended in time. -/
  awaits : Fixture ρ → FilamentId → Flow σ Bool
  /-- Takes a default filament back. -/
  revokes : Fixture ρ → FilamentId → Flow σ Unit

/-- How to run fixtures. -/
structure ExecutionOptions where
  /-- When failures end a fixture or the run. -/
  flags : ExecutionFlags := {}
  /-- How long a call waits for the threads that its routine started. -/
  joinLimit : Duration := .ofSeconds 60
  /-- Whether events carry stacks. -/
  captureStacks : Bool := false
deriving DecidableEq, Repr

/-- A fixture that is to be run. -/
structure FixtureRun (ρ : Type) where
  fixture : Fixture ρ
  /-- How to run it. -/
  options : ExecutionOptions := {}
  /-- The position of the only test case to run, if not all of them are. -/
  selection : Option Nat := none

namespace FixtureRun

variable {σ ρ : Type}

/-- Restricts the run to the test case of a name. -/
def select (r : FixtureRun ρ) (name : String) : Except RunError (FixtureRun ρ) :=
  match r.fixture.findCase? name with
  | some i => .ok { r with selection := some i }
  | none => .error (.unknownCase r.fixture.name name)

/-- The test cases to run, in order. -/
def selected (r : FixtureRun ρ) : List (TestCase ρ) :=
  match r.selection with
  | none => r.fixture.cases
  | some i => r.fixture.cases[i]?.toList

/-- Calls a routine. -/
def callRoutine (h : Host σ ρ) (routine : ρ) : Flow σ (Except RunError Outcome) := do
  match ← h.call routine with
  | .ok o => return .ok o
  | .error e => return .error (.filament e)

/-- Calls a routine that need not be there; one that is not there runs to its end. -/
def callOptional (h : Host σ ρ) : Option ρ → Flow σ (Except RunError Outcome)
  | none => return .ok .completed
  | some routine => callRoutine h routine

/-- Runs a test case and what frames it. What comes after it runs whatever the test did, but only
if what comes before it ran to its end. -/
def runCase (h : Host σ ρ) (f : Fixture ρ) (c : TestCase ρ) :
    Flow σ (Except RunError CaseOutcome) := do
  match ← callOptional h f.before with
  | .error e => return .error e
  | .ok .failed => return .ok (.failed .before)
  | .ok .aborted => return .ok .aborted
  | .ok .completed =>
    match ← callRoutine h c.routine with
    | .error e => return .error e
    | .ok test =>
      match ← callOptional h f.after with
      | .error e => return .error e
      | .ok after => return .ok (.ofRoutines test after)

/-- Runs test cases up to the first that stops the fixture. -/
def runCases (h : Host σ ρ) (flags : ExecutionFlags) (f : Fixture ρ) :
    List (TestCase ρ) → Flow σ FixtureResult
  | [] => return ⟨true, .ok ()⟩
  | c :: rest => do
    match ← h.caseStarts f c with
    | .error e => return ⟨false, .error (.observer e)⟩
    | .ok () =>
      let verdict := CaseVerdict.ofOutcome flags f.name (← runCase h f c)
      h.caseFinished f c verdict.completed
      if verdict.stop then return .ofStop (!rest.isEmpty) verdict.error
      else runCases h flags f rest

/-- Runs teardown, with the result of what came before it. -/
def runTeardown (h : Host σ ρ) (r : FixtureRun ρ) (result : FixtureResult) :
    Flow σ FixtureResult := do
  return result.andTeardown r.options.flags r.fixture.name (← callOptional h r.fixture.teardown)

/-- Runs the routines of a fixture. -/
def runRoutines (h : Host σ ρ) (r : FixtureRun ρ) : Flow σ FixtureResult := do
  let flags := r.options.flags
  match ← callOptional h r.fixture.setup with
  | .error e => return ⟨false, .error e⟩
  | .ok .aborted => return ⟨false, .error .aborted⟩
  | .ok .failed =>
    if flags.setupStopsRun then
      return ⟨false, .error (.routineFailed r.fixture.name .setup)⟩
    else runTeardown h r ⟨false, .ok ()⟩
  | .ok .completed => runTeardown h r (← runCases h flags r.fixture r.selected)

/-- Runs the routines of a fixture while a default filament is installed. Answers the result and
whether all threads that it adopted ended in time. -/
def runAdopting (h : Host σ ρ) (r : FixtureRun ρ) (d : FilamentId) :
    Flow σ (FixtureResult × Bool) := do
  let result ← runRoutines h r
  return (result, ← h.awaits r.fixture d)

/-- Runs a fixture that its observer has accepted. A default filament is revoked in any case. -/
def runAccepted (h : Host σ ρ) (r : FixtureRun ρ) : Flow σ (Except RunError Unit) := do
  if r.fixture.flags.anonymousThreads then
    match ← h.installs r.fixture with
    | .error e =>
      h.fixtureFinished r.fixture false
      return .error (.filament e)
    | .ok d =>
      let (result, ended) ← (runAdopting h r d).ensuring (h.revokes r.fixture d)
      h.fixtureFinished r.fixture (result.completed && ended)
      return result.result
  else
    let result ← runRoutines h r
    h.fixtureFinished r.fixture result.completed
    return result.result

/-- Runs a fixture. -/
def run (h : Host σ ρ) (r : FixtureRun ρ) : Flow σ (Except RunError Unit) := do
  match ← h.validate with
  | .error e => return .error (.observer e)
  | .ok () =>
    match ← h.fixtureStarts r.fixture with
    | .error e => return .error (.observer e)
    | .ok () => runAccepted h r

end FixtureRun

end Testbench
