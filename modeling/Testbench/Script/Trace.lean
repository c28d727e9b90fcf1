import Testbench.Driver.Control
import Testbench.Run.Error
import Testbench.Run.Plan

/-!
# Traces

What scripted routines leave behind for the reader of a scenario. An entry of a trace names the step
that left it and notes what came of it.
-/

namespace Testbench.Script

/-- Steps that leave something in the trace, and the start of a driver. -/
inductive Word
  /-- A driver made its module. -/
  | init
  /-- A text. -/
  | trace
  | failure
  /-- An inconclusive result. -/
  | inconclusiveness
  /-- An assertion as it stands. -/
  | assertion
  /-- An assertion with a text put together for the occasion. -/
  | formattedAssertion
  /-- An assertion that may break. -/
  | breakingAssertion
  | comparison
  /-- A comparison that may break. -/
  | breakingComparison
  | verdict
  /-- A question for a debugger. -/
  | debugger
  /-- A value read. -/
  | value
  | setValue
  /-- A child thread. -/
  | spawn
  /-- A thread that no filament knows of. -/
  | anonymous
  /-- Many child threads. -/
  | fill
  /-- Steps whose unwind is caught. -/
  | catching
  /-- An addition to a sequence. -/
  | add
  /-- The run of an action. -/
  | run
  /-- A question for the thread's place. -/
  | place
  /-- A question for the level. -/
  | level
  /-- A question for the version of the sink. -/
  | version
  /-- A call of a driver's routine. -/
  | call
deriving DecidableEq, Repr

/-- A thread's place, as told to the routine that asks. -/
structure Place where
  /-- Whether it is a child. -/
  child : Bool
  /-- Whether a boundary waits for it to unwind. -/
  guarded : Bool
  /-- Whether its filament is a default filament. -/
  default : Bool
  /-- Whether the events of its filament carry stacks. -/
  captures : Bool
  /-- How many children its filament has. -/
  running : Nat
deriving DecidableEq, Repr

/-- What a call of a driver's routine came to. -/
structure CallAnswer where
  /-- The payload if the routine unwound; else why it was not called, or its result. -/
  result : Except Payload (Except CallError CallResult)
  /-- The number of events. -/
  count : UInt32
  /-- Whether events were dropped. -/
  truncated : Bool
  events : Record.Reading
  /-- The level of the calling thread afterwards. -/
  level : Irql

/-- What came of a call of a driver's routine: there may be no driver. -/
abbrev CallReply : Type := Except TableError CallAnswer

/-- The size of a sequence, and whether it is empty. -/
structure Extent where
  /-- The number of things. -/
  size : Nat
  /-- Whether there is none. -/
  isEmpty : Bool
deriving DecidableEq, Repr

/-- What became of a run, which may unwind. -/
abbrev RunResult : Type := Except Payload (Except RunError Unit)

/-- What came of a step. -/
inductive Note
  | text (text : String)
  /-- The step returned. -/
  | returned
  /-- It failed. -/
  | error (why : List Text.Cause)
  /-- The thread may go on, in this way. -/
  | disposition (d : Disposition)
  /-- A truth value. -/
  | truth (b : Bool)
  /-- A word of 64 bits. -/
  | word (v : UInt64)
  | done
  | number (n : Nat)
  /-- A thread ran to its end, perhaps by unwinding. -/
  | joined (payload : Option Payload)
  /-- A thread that was to stay ended by unwinding, which its boundary may have kept to itself. -/
  | ended (payload : Option Payload)
  /-- Some steps ran to their end, or unwound. -/
  | caught (result : Except Payload Unit)
  /-- A sequence has this extent. -/
  | extent (e : Extent)
  /-- An action was run. -/
  | run (result : RunResult)
  /-- A thread's place. -/
  | place (p : Place)
  | level (l : Irql)
  /-- A routine of a driver was called. -/
  | call (reply : CallReply)

/-- An entry of a trace. -/
structure Entry where
  /-- The step. -/
  word : Word
  /-- What came of it. -/
  note : Note

end Testbench.Script
