import Testbench.Outcome

/-!
# Computations that unwind

What a thread does is a `Flow`: it works on a state and returns a value, or it stops. It stops by
unwinding with a payload, which can be caught. It also stops when it nests deeper than it was given
room for; that is not caught, and nothing is done on the way out, as with a computation that never
comes back.
-/

namespace Testbench

/-- Why a computation does not return. -/
inductive Stop
  /-- It unwinds. -/
  | unwound (payload : Payload)
  /-- It ran out of room. -/
  | exhausted
deriving DecidableEq, Repr

/-- A computation on states `σ` that returns an `α` or stops. -/
abbrev Flow (σ α : Type) : Type := ExceptT Stop (StateM σ) α

namespace Flow

variable {σ α : Type}

/-- Unwinds. -/
def unwind (payload : Payload) : Flow σ α := throw (.unwound payload)

/-- Stops for lack of room. -/
def exhaust : Flow σ α := throw .exhausted

/-- Looks at the state. -/
def see (f : σ → α) : Flow σ α := fun s => (.ok (f s), s)

/-- Changes the state. -/
def change (f : σ → σ) : Flow σ Unit := fun s => (.ok (), f s)

/-- Changes the state and returns a value. -/
def step (f : σ → α × σ) : Flow σ α := fun s => let (a, s) := f s; (.ok a, s)

/-- Catches an unwind. -/
def attempt (f : Flow σ α) : Flow σ (Except Payload α) := fun s =>
  match f s with
  | (.ok a, s) => (.ok (.ok a), s)
  | (.error (.unwound payload), s) => (.ok (.error payload), s)
  | (.error .exhausted, s) => (.error .exhausted, s)

/-- Goes on as a caught computation ended. -/
def resume : Except Payload α → Flow σ α
  | .ok a => return a
  | .error payload => unwind payload

/-- Does something after a computation, whether it returned or unwound. -/
def ensuring (f : Flow σ α) (finish : Flow σ Unit) : Flow σ α := do
  let result ← attempt f
  finish
  resume result

end Flow

end Testbench
