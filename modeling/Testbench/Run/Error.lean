import Testbench.Observer.Contract

/-!
# Why a run stops

A failure of test code is no error by itself: the policy of a run decides whether it stops the run.
What stops a run is one of the causes here.
-/

namespace Testbench

/-- Why a run stopped. -/
inductive RunError
  /-- The observer wanted it to. -/
  | aborted
  /-- A routine failed, and the policy lets its failure through. -/
  | routineFailed (fixture : String) (role : Role)
  /-- A test case was asked for that the fixture does not have. -/
  | unknownCase (fixture case : String)
  /-- The observer refused, or was refused. -/
  | observer (why : ObserverError)
  /-- A filament could not be set up. -/
  | filament (why : FilamentError)
deriving DecidableEq, Repr

instance : Text.Explained RunError where
  cause
    | .aborted => ⟨"Aborted", "test run aborted"⟩
    | .routineFailed fixture role =>
      ⟨"RoutineFailed", role.text ++ " routine of fixture " ++ fixture ++ " failed"⟩
    | .unknownCase fixture case =>
      ⟨"UnknownTestCase", "fixture " ++ fixture ++ " has no test case " ++ case⟩
    | .observer _ => ⟨"Context", "execution context error"⟩
    | .filament _ => ⟨"Filament", "filament error"⟩
  sources
    | .observer why => Text.explain why
    | .filament why => Text.explain why
    | _ => []

end Testbench
