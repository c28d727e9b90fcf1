import Testbench.World

/-!
# The boundary of a routine

A routine is called through its boundary. `guard` runs it and catches every unwind: signals stand
for outcomes, and a panic is reported to the observer first, who decides what it stands for. Two
unwinds go on past the boundary once everything is cleaned up: a break without a debugger, and a
panic that the observer wants to break on. `settle` waits for the child threads and takes their
outcomes in, and `call` does all of it in a filament that the running thread is bound to meanwhile.
A wait that the clock cannot time panics where no boundary is left, and nothing is cleaned up.
-/

namespace Testbench.Boundary

open World

variable {ρ ε : Type}

/-- What running a routine under the boundary came to. -/
inductive Caught
  /-- The routine came out. -/
  | outcome (o : Outcome)
  /-- The unwind goes on past the boundary. -/
  | reraise (payload : Payload)
deriving DecidableEq, Repr

namespace Caught

/-- The outcome to go by until the unwind goes on. -/
def toOutcome : Caught → Outcome
  | outcome o => o
  | reraise _ => .failed

/-- The payload with which the unwind goes on, if it does. -/
def payload? : Caught → Option Payload
  | outcome _ => none
  | reraise payload => some payload

end Caught

/-- What a signal stands for. -/
def ofSignal : Signal → Caught
  | .failed | .inconclusive | .threadTerminated => .outcome .failed
  | .failedAbort => .outcome .aborted
  | .breakpoint => .reraise (.signal .breakpoint)

/-- What a panic stands for, by the observer's answer to it. -/
def ofPanic (text : Option String) : Disposition → Caught
  | .breakIn | .breakAlways => .reraise (.panic text)
  | .abort => .outcome .aborted
  | .proceed => .outcome .failed

/-- Reports a panic that no report explains. The stack is the one it left behind, or else, if the
filament wants stacks, the present one. -/
def reportPanic (f : FilamentId) (i : Identity) (text : Option String)
    (left : Option StackTrace) : Act ρ ε Disposition := do
  let stack ← match left with
    | some stack => pure (some stack)
    | none => stackFor f
  let o ← observerOf f
  inform o (·.unhandledException (panicMessage text))
  report o i ⟨.uncaughtException (panicMessage text), stack⟩

/-- Sets the cells of the running thread for a routine that is about to run. Answers whether panics
left their stack behind before. -/
def enter (f : FilamentId) : Act ρ ε Bool := do
  let captures ← seeFilament f false (·.flags.capturesStacks)
  let before ← seeThread Thread.keepsPanicStack
  changeThread fun t => { t with panicStack := none, keepsPanicStack := captures }
  return before

/-- Takes in how a routine ended on the running thread, which reports as `i` of the filament, and
sets the cells of the thread back. -/
def leave (f : FilamentId) (i : Identity) (before : Bool) (result : Except Payload Unit) :
    Act ρ ε Caught := do
  let left ← seeThread Thread.panicStack
  changeThread fun t => { t with panicStack := none, keepsPanicStack := before }
  match result with
  | .ok () => return .outcome .completed
  | .error (.signal s) => return ofSignal s
  | .error (.panic text) => return ofPanic text (← reportPanic f i text left)

/-- Runs a routine on the running thread, which reports as `i` of the filament. -/
def guard (f : FilamentId) (i : Identity) (routine : Act ρ ε Unit) : Act ρ ε Caught := do
  let before ← enter f
  let result ← routine.attempt
  leave f i before result

/-- Waits for the child threads of a filament and takes their outcomes in. A child that is left
after `limit` fails the routine. -/
def settle (f : FilamentId) (i : Identity) (limit : Duration) (o : Outcome) : Act ρ ε Outcome := do
  let o ← match ← joinChildren f limit with
    | .ok () => pure o
    | .error _ =>
      let _ ← report (← observerOf f) i (.note ("Child threads still running after "
        ++ limit.text ++ ", failing routine"))
      pure (o.worst .failed)
  return o.worst (← seeFilament f .completed Filament.childOutcome)

/-- Goes on with the unwind that was caught, if it is to go on. -/
def goOn (payload : Option Payload) : Act ρ ε Unit :=
  match payload with
  | none => return ()
  | some p => Flow.unwind p

/-- Calls a routine with the running thread as the main thread of a filament. -/
def call (reg : RegistryId) (f : FilamentId) (limit : Duration) (routine : Act ρ ε Unit) :
    Act ρ ε (Except FilamentError Outcome) := do
  match ← attach reg f with
  | .error e => return .error e
  | .ok () =>
    let i ← identityIn f
    let caught ← guard f i routine
    let o ← settle f i limit caught.toOutcome
    detach reg
    goOn caught.payload?
    return .ok o

end Testbench.Boundary
