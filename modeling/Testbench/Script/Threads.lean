import Testbench.Script.Body
import Testbench.Script.Reporting

/-!
# Threads of scripted routines

A step that starts a thread says when the thread runs, and notes what comes of it in the trace. The
steps of the thread are given here as what they do. A child thread ends by unwinding only as far as
its boundary lets an unwind go on, any other thread whenever its steps unwind.
-/

namespace Testbench.Script

open World

/-- Runs the first steps of a child that is to stay. If they return, the child is left under its
boundary; if they unwind, it ends. -/
def beginLingering (scope : Scope) (k : Child.Ticket) (steps : Play Unit) (last : List Step) :
    Play Unit := do
  let ended ← asThread k.thread do
    let before ← Boundary.enter k.filament
    match ← steps.attempt with
    | .ok () =>
      changeStore fun s => { s with
        lingering := s.lingering ++ [⟨k.thread, some (k, before), scope, last⟩] }
      return none
    | .error payload => return some (← Child.conclude k before (.error payload))
  match ended with
  | none => return ()
  | some payload =>
    endThread k.thread
    leave .spawn (.ended payload)

/-- Starts a child thread that does some steps. -/
def spawn (scope : Scope) (mode : ThreadMode) (steps : Play Unit) (last : List Step) :
    Body Unit := do
  match ← Body.lift scope.path.startThread with
  | .error why => Body.lift (leave .spawn (.error why))
  | .ok k =>
    match mode with
    | .joined => Body.lift do leave .spawn (.joined (← Child.finish k steps))
    | .deferred => Body.defer do let _ ← Child.finish k steps
    | .lingering => Body.lift (beginLingering scope k steps last)

/-- Runs the first steps of a thread without a filament that is to stay. -/
def beginAnonymousLingering (scope : Scope) (t : ThreadId) (steps : Play Unit)
    (last : List Step) : Play Unit := do
  match ← asThread t steps.attempt with
  | .ok () =>
    changeStore fun s => { s with lingering := s.lingering ++ [⟨t, none, scope, last⟩] }
  | .error payload =>
    endThread t
    leave .anonymous (.ended (some payload))

/-- Starts a thread without a filament that does some steps. -/
def spawnAnonymous (scope : Scope) (mode : ThreadMode) (steps : Play Unit) (last : List Step) :
    Body Unit := do
  let t ← Body.lift newThread
  match mode with
  | .joined => Body.lift do leave .anonymous (.joined (← Child.anonymous t steps))
  | .deferred => Body.defer do let _ ← Child.anonymous t steps
  | .lingering => Body.lift (beginAnonymousLingering scope t steps last)

/-- Lets a thread go that stayed: it does some last steps and ends. -/
def endLingering (l : Lingerer) (last : Play Unit) : Play Unit := do
  asThread l.thread do
    let result ← last.attempt
    match l.ticket with
    | some (k, before) => let _ ← Child.conclude k before result
    | none => return ()
  endThread l.thread

end Testbench.Script
