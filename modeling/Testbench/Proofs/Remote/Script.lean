import Testbench.Script.Routine

/-!
# What report scripts say

A report script is a routine whose steps only report, from the thread that runs the routine: they
leave messages, make assertions, compare words, cannot decide, fail, or look at the value of the
filament and set it; and a step may panic.  What such a routine tells its observer, and how it ends,
follows from its steps and from the answers to failed assertions alone, whatever way it reports.
-/

namespace Testbench

/-- How a routine ends on the answer to a failed assertion, if it does. -/
def Disposition.ending? : Disposition → Option Payload
  | .proceed | .breakAlways => none
  | .breakIn => some (.signal .failed)
  | .abort => some (.signal .failedAbort)

namespace Script

/-! ### Steps -/

namespace Step

/-- Whether a step only reports, from the thread of the routine. -/
def isReport : Step → Bool
  | .log _ | .failure | .inconclusiveness _ | .panicking _ => true
  | .value .ordinary | .setValue .ordinary _ => true
  | .assertion style _ _ => style != .breaking
  | .comparison breaking .. => !breaking
  | _ => false

/-- The event that a step reports, if it does. -/
def event? : Step → Option Event
  | .log message => some (.note message)
  | .inconclusiveness message => some ⟨.inconclusiveness message, none⟩
  | .assertion _ expression site => some ⟨site.detail expression, none⟩
  | .comparison _ expected actual expression site =>
    if expected = actual then none
    else some ⟨site.detail (comparisonText expected actual expression), none⟩
  | _ => none

/-- How a routine ends with a step, if it does. -/
def ending? (d : Dispositions) : Step → Option Payload
  | .failure => some (.signal .failed)
  | .inconclusiveness _ => some (.signal .inconclusive)
  | .panicking text => some (.panic text)
  | .assertion .. => d.failedAssertion.ending?
  | .comparison _ expected actual _ _ =>
    if expected = actual then none else d.failedAssertion.ending?
  | _ => none

end Step

/-! ### Scripts -/

/-- The events that steps report, up to the first step with which the routine ends. -/
def eventsOf (d : Dispositions) : List Step → List Event
  | [] => []
  | s :: rest => s.event?.toList ++ if (s.ending? d).isSome then [] else eventsOf d rest

/-- How a routine with these steps ends: the payload of its unwind, unless it returns. -/
def endingOf (d : Dispositions) : List Step → Option Payload
  | [] => none
  | s :: rest => (s.ending? d).or (endingOf d rest)

/-- The event that a boundary adds to an ending. -/
def lastEvent? : Option Payload → Option Event
  | some (.panic text) => some ⟨.uncaughtException (panicMessage text), none⟩
  | _ => none

/-- All that the observer of a call hears. -/
def heard (d : Dispositions) (steps : List Step) : List Event :=
  eventsOf d steps ++ (lastEvent? (endingOf d steps)).toList

/-- What a boundary makes of an ending. -/
def outcomeOfEnding (d : Dispositions) : Option Payload → Outcome
  | none => .completed
  | some (.signal .failedAbort) => .aborted
  | some (.signal _) => .failed
  | some (.panic _) => if d.uncaughtException = .abort then .aborted else .failed

/-- A routine whose steps only report. -/
structure ReportScript where
  /-- The name of the routine. -/
  id : RoutineId
  /-- Its steps. -/
  steps : List Step
  /-- They only report. -/
  reports : ∀ s ∈ steps, s.isReport

namespace ReportScript

/-- The routine that reports along a path. -/
def along (p : ReportScript) (path : Path) : Routine := .scripted path p.id p.steps

/-- How a call comes out. -/
def outcome (p : ReportScript) (d : Dispositions) : Outcome :=
  outcomeOfEnding d (endingOf d p.steps)

/-- The bytes that the records of a call take. -/
def recordsSize (p : ReportScript) (d : Dispositions) : Nat :=
  ((heard d p.steps).flatMap Record.encode).length

end ReportScript

end Script

end Testbench
