import Testbench.Boundary
import Testbench.Run.Fixture

/-!
# Runs in the world

The host that the world provides for running a fixture: callbacks go to an observer, and routines
are called through their boundary, each in a filament of its own, bound in one registry. A fixture
whose threads may be anonymous has a default filament while it runs.
-/

namespace Testbench

open World

variable {ρ ε : Type}

/-- A fixture to be run, with the registry that binds the threads of its routines. -/
structure Job (ρ : Type) where
  /-- The fixture and how to run it. -/
  run : FixtureRun ρ
  registry : RegistryId

namespace Job

/-- The flags of the filaments that routines run in. -/
def filamentFlags (j : Job ρ) : FilamentFlags :=
  ({} : FilamentFlags).withCapture j.run.options.captureStacks

/-- Calls a routine in a filament of its own. -/
def callRoutine (exec : ρ → Act ρ ε Unit) (o : ObserverId) (j : Job ρ) (routine : ρ) :
    Act ρ ε (Except FilamentError Outcome) := do
  let f ← newFilament o j.filamentFlags
  Boundary.call j.registry f j.run.options.joinLimit (exec routine)

/-- Installs a default filament. -/
def install (o : ObserverId) (j : Job ρ) : Act ρ ε (Except FilamentError FilamentId) := do
  let t ← self
  onRoster (·.installDefault j.registry o j.filamentFlags t)

/-- Waits for the threads that a default filament adopted, and tells the observer if some are
left. -/
def awaitAdopted (o : ObserverId) (j : Job ρ) (f : FilamentId) (fixture : Fixture ρ) :
    Act ρ ε Bool := do
  let limit := j.run.options.joinLimit
  match ← joinChildren f limit with
  | .ok () => return true
  | .error _ =>
    let _ ← report o (.ownMain (← self)) (.note ("Threads of fixture " ++ fixture.name
      ++ " still running after " ++ limit.text))
    return false

/-- Takes the default filament back. -/
def revoke (reg : RegistryId) (f : FilamentId) : Act ρ ε Unit :=
  onRoster fun r => ((), r.revokeDefault reg f)

/-- The world as a host. -/
def host (exec : ρ → Act ρ ε Unit) (o : ObserverId) (j : Job ρ) : Host (World ρ ε) ρ where
  validate := tell o (.ok ()) fun x => (x.validate, x)
  fixtureStarts f := do
    let t ← self
    tell o (.ok ()) (·.fixtureStarts (.ownMain t) f.name)
  fixtureFinished f completed := do
    let t ← self
    inform o (·.fixtureFinished (.ownMain t) f.name completed)
  caseStarts f c := do
    let t ← self
    tell o (.ok ()) (·.caseStarts (.ownMain t) f.name c.name)
  caseFinished f c completed := do
    let t ← self
    inform o (·.caseFinished (.ownMain t) f.name c.name completed)
  call := j.callRoutine exec o
  installs _ := j.install o
  awaits f d := j.awaitAdopted o d f
  revokes _ d := revoke j.registry d

/-- Runs a job. -/
def perform (exec : ρ → Act ρ ε Unit) (o : ObserverId) (j : Job ρ) :
    Act ρ ε (Except RunError Unit) := j.run.run (j.host exec o)

end Job

end Testbench
