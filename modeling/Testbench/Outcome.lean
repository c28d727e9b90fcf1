/-!
# How a routine ends

A routine returns, or it unwinds to the boundary that called it and takes a payload along. Signals
are the payloads of the reporting primitives; everything else is a panic. The boundary turns both
into an outcome, and a call with several threads comes out as the worst of theirs.
-/

namespace Testbench

/-- The payloads with which reporting primitives unwind a thread. -/
inductive Signal
  /-- The routine failed. -/
  | failed
  /-- The routine failed, and the run is to stop. -/
  | failedAbort
  /-- The routine could not decide. -/
  | inconclusive
  /-- A break was asked for and no debugger is there; this goes past every boundary. -/
  | breakpoint
  /-- The reporting thread has no boundary and ends. -/
  | threadTerminated
deriving DecidableEq, Repr, Inhabited

/-- What an unwinding thread takes along. -/
inductive Payload
  | signal (s : Signal)
  /-- A panic, with its message where it has one. -/
  | panic (text : Option String)
deriving DecidableEq, Repr, Inhabited

/-- The message of a panic for a reader. -/
def panicMessage (text : Option String) : String := text.getD "panic (unknown payload type)"

/-- How a routine came out. -/
inductive Outcome
  /-- It ran to its end. -/
  | completed
  | failed
  /-- It failed, and the run is to stop. -/
  | aborted
deriving DecidableEq, Repr, Inhabited

namespace Outcome

/-- How bad an outcome is. -/
def severity : Outcome → Nat
  | completed => 0
  | failed => 1
  | aborted => 2

/-- The worse of two outcomes. -/
def worst (a b : Outcome) : Outcome := if a.severity < b.severity then b else a

end Outcome

end Testbench
