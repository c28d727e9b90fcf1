import Testbench.Text.Cause
import Testbench.Text.Hex

/-!
# Closed codes

The closed enumerations that cross the border between a driver and its client as 32-bit codes: what
to do about an event, what sort of event it is, and what part a routine plays in its fixture. Each
has a `code`, and `ofCode?` accepts exactly the codes.
-/

namespace Testbench

/-- A number that is no code of the enumeration it was meant for. -/
structure InvalidCode where
  /-- What the number was meant for. -/
  what : String
  /-- The number. -/
  value : UInt32
deriving DecidableEq, Repr

instance : Text.Explained InvalidCode where
  cause e := ⟨"InvalidValue", "invalid " ++ e.what ++ " value " ++ Text.hex e.value.toNat⟩
  sources _ := []

/-- How the observer of a run wants the thread that reported an event to go on. -/
inductive Disposition
  /-- Go on with the routine. -/
  | proceed
  /-- Break into a debugger if there is one, and fail the routine otherwise. -/
  | breakIn
  /-- Break, whether or not there is a debugger. -/
  | breakAlways
  /-- Fail the routine and stop the run. -/
  | abort
deriving DecidableEq, Repr, Inhabited

namespace Disposition

/-- The number that stands for a disposition. -/
def code : Disposition → UInt32
  | proceed => 0
  | breakIn => 1
  | breakAlways => 2
  | abort => 3

/-- The disposition that a number stands for. -/
def ofCode? (value : UInt32) : Except InvalidCode Disposition :=
  if value = 0 then .ok proceed
  else if value = 1 then .ok breakIn
  else if value = 2 then .ok breakAlways
  else if value = 3 then .ok abort
  else .error ⟨"disposition", value⟩

end Disposition

/-- The sorts of events. -/
inductive EventKind
  /-- An assertion did not hold. -/
  | failedAssertion
  /-- A routine unwound in a way that no report explains. -/
  | uncaughtException
  /-- A routine could not decide whether it passed. -/
  | inconclusiveness
  /-- A message to the reader of the run. -/
  | log
deriving DecidableEq, Repr, Inhabited

namespace EventKind

/-- The number that stands for a sort of event. -/
def code : EventKind → UInt32
  | failedAssertion => 0
  | uncaughtException => 1
  | inconclusiveness => 2
  | log => 3

/-- The sort of event that a number stands for. -/
def ofCode? (value : UInt32) : Except InvalidCode EventKind :=
  if value = 0 then .ok failedAssertion
  else if value = 1 then .ok uncaughtException
  else if value = 2 then .ok inconclusiveness
  else if value = 3 then .ok log
  else .error ⟨"event type", value⟩

end EventKind

/-- The part a routine plays in its fixture. -/
inductive Role
  /-- Runs once, before the first test case. -/
  | setup
  /-- Runs once, after the last test case. -/
  | teardown
  | testCase
  /-- Runs before every test case. -/
  | before
  /-- Runs after every test case. -/
  | after
deriving DecidableEq, Repr, Inhabited

namespace Role

/-- The number that stands for a role. -/
def code : Role → UInt32
  | setup => 1
  | teardown => 2
  | testCase => 3
  | before => 4
  | after => 5

/-- The role that a number stands for. -/
def ofCode? (value : UInt32) : Except InvalidCode Role :=
  if value = 1 then .ok setup
  else if value = 2 then .ok teardown
  else if value = 3 then .ok testCase
  else if value = 4 then .ok before
  else if value = 5 then .ok after
  else .error ⟨"entry type", value⟩

/-- The role as it is named in a failure. -/
def text : Role → String
  | setup => "setup"
  | teardown => "teardown"
  | testCase => "test case"
  | before => "before"
  | after => "after"

end Role

end Testbench
