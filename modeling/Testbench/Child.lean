import Testbench.Boundary

/-!
# Child threads

A routine starts child threads in its own filament. A child binds itself before the start is over,
so that nobody stops waiting while it is on its way, and it runs under a boundary of its own. When
it ends it first notes its outcome in the filament and then unbinds, which lets go whoever waits.

The two halves of a child's life are apart here: `start` is over when the child is bound, and
`finish` is the rest of it. What lies between is the freedom of the scheduler.
-/

namespace Testbench.Child

open World

variable {ρ ε : Type}

/-- Why a child thread was not started. -/
inductive SpawnError
  /-- The thread has no filament, or the child could not be bound. -/
  | filament (why : FilamentError)
  /-- The thread could not be made. -/
  | refused (why : Refusal)
  /-- The child ended before it was bound. -/
  | lost
deriving DecidableEq, Repr

instance : Text.Explained SpawnError where
  cause
    | .filament _ => ⟨"Filament", "filament error"⟩
    | .refused _ => ⟨"Spawn", "failed to create thread"⟩
    | .lost => ⟨"Initialization", "child thread exited before joining its filament"⟩
  sources
    | .filament why => Text.explain why
    | .refused why => Text.explain why
    | .lost => []

/-- A child thread that is bound and has not run yet. -/
structure Ticket where
  /-- The child. -/
  thread : ThreadId
  /-- The registry that binds it. -/
  registry : RegistryId
  filament : FilamentId
deriving DecidableEq, Repr

/-- The first thing a child does: it binds itself and tells the observer. -/
def enrol (reg : RegistryId) (f : FilamentId) : Act ρ ε (Except FilamentError Unit) := do
  match ← attach reg f with
  | .error e => return .error e
  | .ok () =>
    let i ← identityIn f
    inform (← observerOf f) (·.childStarts i)
    return .ok ()

/-- Starts a child thread in the filament of the running thread. -/
def start (reg : RegistryId) : Act ρ ε (Except SpawnError Ticket) := do
  match ← membership reg false with
  | .error e => return .error (.filament e)
  | .ok m =>
    match ← tell (← observerOf m.filament) .started fun o => (o.threadStart, o) with
    | .refused why => return .error (.refused why)
    | .dropped =>
      endThread (← newThread)
      return .error .lost
    | .started =>
      let t ← newThread
      match ← asThread t (enrol reg m.filament) with
      | .error e =>
        endThread t
        return .error (.filament e)
      | .ok () => return .ok ⟨t, reg, m.filament⟩

/-- What the running thread, a child, does last: it takes in how its routine ended, tells the
observer, notes its outcome and unbinds. Answers the payload of an unwind that goes past its
boundary. -/
def conclude (k : Ticket) (before : Bool) (result : Except Payload Unit) :
    Act ρ ε (Option Payload) := do
  let i ← identityIn k.filament
  let caught ← Boundary.leave k.filament i before result
  inform (← observerOf k.filament) (·.childFinished i)
  match caught with
  | .outcome o => changeFilament k.filament (·.note o)
  | .reraise _ => pure ()
  detach k.registry
  return caught.payload?

/-- Runs a child to its end. Answers the payload of an unwind that went past its boundary. -/
def finish (k : Ticket) (routine : Act ρ ε Unit) : Act ρ ε (Option Payload) := do
  let payload ← asThread k.thread do
    let before ← Boundary.enter k.filament
    let result ← routine.attempt
    conclude k before result
  endThread k.thread
  return payload

/-- Runs something on a thread of its own that no filament knows of, from its start to its end.
Answers the payload if it unwound. -/
def anonymous (t : ThreadId) (routine : Act ρ ε Unit) : Act ρ ε (Option Payload) := do
  let result ← asThread t routine.attempt
  endThread t
  match result with
  | .ok () => return none
  | .error payload => return some payload

end Testbench.Child
