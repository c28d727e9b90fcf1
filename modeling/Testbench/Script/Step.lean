import Testbench.Driver.Client
import Testbench.Observer.Settings

/-!
# Steps of scripted routines

A scripted routine is a list of steps. There are steps for everything that test code can do: report,
unwind, start threads, catch what unwinds, and ask about its surroundings. They report in one of
three ways, the path of the routine.
-/

namespace Testbench.Script

/-- The way in which a routine reports. -/
inductive Path
  /-- Through the registry of the scenario. -/
  | own
  /-- Through the registry that everybody shares. -/
  | shared
  /-- Through the sink of a driver. -/
  | sink (s : Sink)
deriving DecidableEq, Repr

/-- When a started thread runs. -/
inductive ThreadMode
  /-- At once and to its end. -/
  | joined
  /-- When the steps of the one who started it are over. -/
  | deferred
  /-- At once, but then it stays until the scenario lets it go. -/
  | lingering
deriving DecidableEq, Repr

/-- How an assertion is made. -/
inductive AssertionStyle
  /-- As it stands. -/
  | plain
  /-- With a text that is put together for the occasion. -/
  | formatted
  /-- With a break into the debugger if that is the answer. -/
  | breaking
deriving DecidableEq, Repr

/-- A call of a driver's routine. -/
structure CallPlan where
  /-- The name of a held connection, which counts before the address. -/
  held : Option String
  /-- The address of the driver. -/
  address : UInt64
  /-- The key of the fixture. -/
  fixture : UInt16
  /-- The key of the routine. -/
  routine : UInt16
  /-- The answers to events. -/
  dispositions : Dispositions
  /-- How many bytes the events may take. -/
  capacity : Nat
  /-- The value that the call starts with. -/
  value : UInt64

/-- A step of a scripted routine. -/
inductive Step
  /-- Leaves a text in the trace. -/
  | trace (text : String)
  /-- Reports a message. -/
  | log (message : String)
  /-- Fails. -/
  | failure
  /-- Reports that the routine cannot decide. -/
  | inconclusiveness (message : String)
  /-- Reports that an assertion did not hold. -/
  | assertion (style : AssertionStyle) (expression : String) (site : Site)
  /-- Compares two words. -/
  | comparison (breaking : Bool) (expected actual : UInt32) (expression : String) (site : Site)
  /-- Panics. -/
  | panicking (text : Option String)
  /-- Unwinds with a signal. -/
  | raise (s : Signal)
  /-- Acts on a verdict. -/
  | verdict (v : Verdict)
  /-- Asks for a debugger. -/
  | debugger
  /-- Reads a value of the filament. -/
  | value (tag : ValueTag)
  /-- Sets a value of the filament. -/
  | setValue (tag : ValueTag) (v : UInt64)
  /-- Starts a child thread with these steps. A thread that lingers ends with other steps. -/
  | spawn (mode : ThreadMode) (steps last : List Step)
  /-- Does the same with a thread that no filament knows of. -/
  | anonymous (mode : ThreadMode) (steps last : List Step)
  /-- Starts many deferred child threads without steps. -/
  | fill (count : Nat)
  /-- Catches what unwinds out of some steps. -/
  | catching (steps : List Step)
  /-- Does some steps in one call of the routine only. -/
  | inCall (number : Nat) (steps : List Step)
  /-- Does some steps again and again. -/
  | repeated (times : Nat) (steps : List Step)
  /-- Changes the settings of the scenario's recorder. -/
  | configure (settings : Settings)
  /-- Adds an action to a sequence. -/
  | add (sequence action : String)
  /-- Runs an action. -/
  | run (action : String)
  /-- Unbinds the thread; driver code cannot do that. -/
  | reset
  /-- Asks for the thread's place. -/
  | place (derive : Bool)
  /-- Asks for the level. -/
  | level
  /-- Asks for a higher level. -/
  | raiseLevel (l : Irql)
  /-- Asks for a lower level. -/
  | lowerLevel (l : Irql)
  /-- Asks for the version of the sink; there is only one in drivers. -/
  | version
  /-- Calls a routine of a driver. -/
  | call (plan : CallPlan)
  /-- Waits while a driver is being disconnected. -/
  | park

instance : Inhabited Step := ⟨.park⟩

/-- The name of a scripted routine, under which its calls are counted. -/
abbrev RoutineId := Nat

/-- A routine of a scenario. -/
inductive Routine
  /-- A list of steps. -/
  | scripted (path : Path) (id : RoutineId) (steps : List Step)
  /-- A routine of a driver. -/
  | remote (r : RemoteRoutine)

end Testbench.Script
