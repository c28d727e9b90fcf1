import Testbench.Event
import Testbench.Filament

/-!
# What observers agree on

An observer follows a run: it is told when fixtures and test cases start and finish, it is asked
what to do about events, and it starts child threads. It may refuse a fixture or a test case, and it
is refused itself if it was made for another version of this contract.
-/

namespace Testbench

/-- The version of the contract. -/
def contractVersion : UInt32 := 0x10000

/-- Why an observer refused. -/
inductive Refusal
  /-- It was told not to take this fixture. -/
  | fixture (name : String)
  /-- For reasons of its own. -/
  | other (message : String)
deriving DecidableEq, Repr

instance : Text.Explained Refusal where
  cause
    | .fixture name =>
      ⟨"FixtureRefused", "fixture " ++ name ++ " refused by the execution context"⟩
    | .other message => ⟨"Custom", message⟩
  sources _ := []

/-- Why a run cannot go on with its observer. -/
inductive ObserverError
  /-- It was made for another version of the contract. -/
  | versionMismatch (found expected : UInt32)
  /-- It refused in the callback of this name. -/
  | refused (callback : String) (why : Refusal)
deriving DecidableEq, Repr

instance : Text.Explained ObserverError where
  cause
    | .versionMismatch found expected =>
      ⟨"VersionMismatch", "execution context version " ++ Text.hex found.toNat
        ++ " does not match " ++ Text.hex expected.toNat⟩
    | .refused callback _ => ⟨"CallbackFailed", callback ++ " callback failed"⟩
  sources
    | .versionMismatch .. => []
    | .refused _ why => Text.explain why

/-- What an observer does when a child thread is to be started. -/
inductive ThreadStart
  /-- It starts the thread. -/
  | started
  /-- It fails, for this reason. -/
  | refused (why : Refusal)
  /-- It starts a thread that ends at once without doing what it was given. -/
  | dropped
deriving DecidableEq, Repr

/-- What an observer answers to events, by their kind. -/
structure Dispositions where
  /-- The answer to failed assertions. -/
  failedAssertion : Disposition
  /-- The answer to uncaught exceptions. -/
  uncaughtException : Disposition
deriving DecidableEq, Repr

namespace Dispositions

/-- The answer to events of a kind; the run always goes on after the others. -/
def answer (d : Dispositions) : EventKind → Disposition
  | .failedAssertion => d.failedAssertion
  | .uncaughtException => d.uncaughtException
  | .inconclusiveness | .log => .proceed

end Dispositions

end Testbench
