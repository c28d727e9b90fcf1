import Testbench.Flags
import Testbench.Outcome
import Testbench.Run.Error

/-!
# The policy of a run

Whether a failure stops its fixture, and whether it stops the run, is decided here and nowhere else.

* A failed setup stops the run if the flags say so of setups or of any failure. Otherwise the test
  cases are skipped, teardown still runs, and the run goes on.
* A failed test case, be it before, in or after it, stops the fixture if the flags say so of
  fixtures or of any failure. It stops the run if they say so of any failure, or if it stops the
  fixture and fixtures escalate.
* A failed teardown stops the run if fixtures escalate or any failure stops it.
* An abort stops everything.
-/

namespace Testbench

namespace ExecutionFlags

/-- Whether a failed setup stops the run. -/
def setupStopsRun (f : ExecutionFlags) : Bool := f.setupEndsRun || f.endsRun

/-- Whether a failed test case stops its fixture. -/
def caseStopsFixture (f : ExecutionFlags) : Bool := f.endsFixture || f.endsRun

/-- Whether a failed test case stops the run. -/
def caseStopsRun (f : ExecutionFlags) : Bool := f.endsRun || (f.endsFixture && f.escalates)

/-- Whether a failed teardown stops the run. -/
def teardownStopsRun (f : ExecutionFlags) : Bool := f.escalates || f.endsRun

end ExecutionFlags

/-- How a test case came out together with what frames it. -/
inductive CaseOutcome
  /-- All of it ran to its end. -/
  | completed
  /-- The routine of this role failed. -/
  | failed (role : Role)
  /-- The run is to stop. -/
  | aborted
deriving DecidableEq, Repr

namespace CaseOutcome

/-- The outcome of a test and of what ran after it. An abort counts most, and the failure of the
test before that of the other. -/
def ofRoutines : Outcome → Outcome → CaseOutcome
  | .aborted, _ | _, .aborted => aborted
  | .failed, _ => failed .testCase
  | .completed, .failed => failed .after
  | .completed, .completed => completed

end CaseOutcome

/-- What becomes of a fixture after one of its test cases. -/
structure CaseVerdict where
  /-- Whether the test case ran to completion. -/
  completed : Bool
  /-- Whether the fixture stops. -/
  stop : Bool
  /-- Why the run stops, if it does. -/
  error : Option RunError
deriving DecidableEq, Repr

namespace CaseVerdict

/-- The policy on test cases. -/
def ofOutcome (flags : ExecutionFlags) (fixture : String) :
    Except RunError CaseOutcome → CaseVerdict
  | .ok .completed => ⟨true, false, none⟩
  | .ok (.failed role) =>
    ⟨false, flags.caseStopsFixture,
      if flags.caseStopsRun then some (.routineFailed fixture role) else none⟩
  | .ok .aborted => ⟨false, true, some .aborted⟩
  | .error e => ⟨false, true, some e⟩

end CaseVerdict

/-- What running the routines of a fixture came to. -/
structure FixtureResult where
  /-- Whether the fixture ran to completion. -/
  completed : Bool
  /-- Whether the run goes on. -/
  result : Except RunError Unit

namespace FixtureResult

/-- The result of stopping after a test case, with `skipped` telling whether others were left. -/
def ofStop (skipped : Bool) (error : Option RunError) : FixtureResult :=
  ⟨!skipped && error.isNone, match error with
    | none => .ok ()
    | some e => .error e⟩

/-- The policy on teardowns: what a result becomes by the outcome of the teardown. An earlier error
stays, unless the teardown wants the run to stop. -/
def andTeardown (flags : ExecutionFlags) (fixture : String) (r : FixtureResult) :
    Except RunError Outcome → FixtureResult
  | .ok .completed => r
  | .ok .failed =>
    ⟨false, match r.result with
      | .ok () => if flags.teardownStopsRun then .error (.routineFailed fixture .teardown) else .ok ()
      | .error e => .error e⟩
  | .ok .aborted => ⟨false, .error .aborted⟩
  | .error e =>
    ⟨false, match r.result with
      | .ok () => .error e
      | .error first => .error first⟩

end FixtureResult

end Testbench
