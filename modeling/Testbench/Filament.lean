import Testbench.Flags
import Testbench.Outcome
import Testbench.Text.Cause
import Testbench.Text.Duration

/-!
# Filaments

A filament is the group of threads that one routine call is about: the main thread, which makes the
call, and the child threads that are bound to it for now. Its threads report to one observer. The
filament counts its children, of which it holds only so many, and keeps the worst of their outcomes
and two values for test code.
-/

namespace Testbench

/-- The name of a thread. -/
abbrev ThreadId := Nat

/-- The name of a filament. -/
abbrev FilamentId := Nat

/-- The name of an observer. -/
abbrev ObserverId := Nat

/-- Who reports: a thread, and the main thread of its filament. -/
structure Identity where
  mainThread : ThreadId
  /-- The thread that reports. -/
  thread : ThreadId
deriving DecidableEq, Repr

namespace Identity

/-- A thread that is its own main thread. -/
def ownMain (t : ThreadId) : Identity := ⟨t, t⟩

/-- Whether a child thread reports. -/
def isChild (i : Identity) : Bool := i.mainThread != i.thread

end Identity

/-- Why a thread and a filament do not come together, or apart. -/
inductive FilamentError
  /-- The thread belongs to no filament. -/
  | unknownThread
  /-- The filament holds `count` children and no more. -/
  | tooManyChildren (count : Nat)
  /-- The table holds `count` threads and no more. -/
  | tooManyThreads (count : Nat)
  /-- The thread is bound, or a default filament is installed. -/
  | conflict
  /-- Children ran longer than anybody waits. -/
  | timeout (limit : Duration)
deriving DecidableEq, Repr

instance : Text.Explained FilamentError where
  cause
    | .unknownThread => ⟨"UnknownThread", "thread is not bound to a filament"⟩
    | .tooManyChildren count =>
      ⟨"ResourceExhausted", "filament already tracks " ++ toString count ++ " child threads"⟩
    | .tooManyThreads count => ⟨"TooManyThreads", toString count ++ " threads already bound"⟩
    | .conflict => ⟨"Conflict", "conflicting filament binding"⟩
    | .timeout limit => ⟨"Timeout", "child threads still running after " ++ limit.text⟩
  sources _ := []

/-- The values of a filament. -/
inductive ValueTag
  /-- For test code. -/
  | ordinary
  /-- For those who run the tests. -/
  | reserved
deriving DecidableEq, Repr

/-- A group of threads. -/
structure Filament where
  /-- Whom its threads report to. -/
  observer : ObserverId
  /-- The thread that made it. -/
  mainThread : ThreadId
  /-- What sort of filament it is. -/
  flags : FilamentFlags
  /-- How many child threads are bound to it. -/
  running : Nat := 0
  /-- The value for test code. -/
  ordinary : UInt64 := 0
  /-- The value for those who run the tests. -/
  reserved : UInt64 := 0
  /-- The worst outcome of the child threads that ended. -/
  childOutcome : Outcome := .completed
deriving DecidableEq, Repr

namespace Filament

/-- The greatest number of children. -/
def maxChildren : Nat := 64

/-- How a thread reports when it belongs to the filament. -/
def identity (f : Filament) (t : ThreadId) : Identity := ⟨f.mainThread, t⟩

/-- A value of the filament. -/
def value (f : Filament) : ValueTag → UInt64
  | .ordinary => f.ordinary
  | .reserved => f.reserved

/-- Sets a value of the filament. -/
def setValue (f : Filament) (tag : ValueTag) (v : UInt64) : Filament :=
  match tag with
  | .ordinary => { f with ordinary := v }
  | .reserved => { f with reserved := v }

/-- Counts one more child, unless there are as many as there may be. -/
def addChild (f : Filament) : Except FilamentError Unit × Filament :=
  if maxChildren ≤ f.running then (.error (.tooManyChildren f.running), f)
  else (.ok (), { f with running := f.running + 1 })

/-- Counts one child less. -/
def removeChild (f : Filament) : Filament := { f with running := f.running - 1 }

/-- Takes note of how a child came out. -/
def note (f : Filament) (o : Outcome) : Filament :=
  { f with childOutcome := f.childOutcome.worst o }

/-- What waiting for the children comes to, if the clock can time it. Threads take turns, so that a
thread that can end within the time has ended when somebody waits for it: waiting fails exactly if a
child is left. -/
def join (f : Filament) (limit : Duration) : Except FilamentError Unit :=
  if f.running = 0 then .ok () else .error (.timeout limit)

end Filament

end Testbench
