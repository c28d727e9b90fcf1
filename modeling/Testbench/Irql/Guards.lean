import Testbench.Irql

/-!
# Guards of a level

A guard raises the level of its thread and asks, when it is dropped, for the level that it found.
The guard of a spin lock also holds the lock, and its level is `Irql.synch`. Guards may be dropped
in any order. `Guards` is one thread with its level, some spin locks around counters, and the guards
it has taken; `Guards.step` is what the thread can do.
-/

namespace Testbench.Irql

/-- A guard that is alive. -/
structure Guard where
  /-- The level that it found. -/
  previous : Irql
  /-- The spin lock that it holds, if any. -/
  lock : Option Nat
deriving DecidableEq, Repr

/-- A counter behind a spin lock. -/
structure Lock where
  /-- The counter. -/
  value : Nat
  /-- Whether a guard holds the lock. -/
  held : Bool
deriving DecidableEq, Repr

/-- A thread's level, some locks, and the guards taken so far, of which dropped ones are gone. -/
structure Guards where
  level : Irql
  locks : List Lock
  /-- The guards, in the order in which they were taken. -/
  guards : List (Option Guard)
deriving DecidableEq, Repr

namespace Guards

/-- A thread at passive level and `n` locks, each around a counter that shows its position. -/
def start (n : Nat) : Guards := ⟨passive, (List.range n).map fun i => ⟨i, false⟩, []⟩

/-- Takes a guard that raises the level to `level`. -/
def take (g : Guards) (level : Irql) (lock : Option Nat) : Guards :=
  { g with
    level := raised g.level level
    guards := g.guards ++ [some ⟨g.level, lock⟩] }

/-- Lets go of the lock a guard holds. -/
def unlock (g : Guards) : Option Nat → Guards
  | none => g
  | some i => { g with locks := g.locks.modify i fun l => { l with held := false } }

/-- Drops the guard in place `i`, unless it is gone. The lock is let go before the level. -/
def drop (g : Guards) (i : Nat) : Guards :=
  match g.guards[i]? with
  | some (some guard) =>
    let g := g.unlock guard.lock
    { g with level := lowered g.level guard.previous, guards := g.guards.set i none }
  | _ => g

/-- Drops every guard that is still alive, in the order in which they were taken. -/
def dropAll (g : Guards) : Guards := (List.range g.guards.length).foldl drop g

/-- Something a thread can do. -/
inductive Step
  /-- Ask for a higher level. -/
  | raise (level : Irql)
  /-- Ask for a lower level. -/
  | lower (level : Irql)
  /-- Take a guard that raises the level. -/
  | scope (level : Irql)
  /-- Take the guard of a lock and add to its counter. -/
  | acquire (lock amount : Nat)
  /-- Drop a guard. -/
  | drop (guard : Nat)
deriving DecidableEq, Repr

/-- What a thread is told when it has done something. -/
inductive Answer
  | nothing
  /-- The level before. -/
  | previous (level : Irql)
  /-- The counter afterwards. -/
  | counter (value : Nat)
  /-- The lock is taken. -/
  | held
deriving DecidableEq, Repr

/-- Does one thing. -/
def step (g : Guards) : Step → Answer × Guards
  | .raise level => (.previous g.level, { g with level := raised g.level level })
  | .lower level => (.nothing, { g with level := lowered g.level level })
  | .scope level => (.nothing, g.take level none)
  | .acquire i amount =>
    match g.locks[i]? with
    | none => (.held, g)
    | some l =>
      if l.held then (.held, g)
      else
        let g := g.take synch (some i)
        (.counter (l.value + amount),
          { g with locks := g.locks.set i ⟨l.value + amount, true⟩ })
  | .drop i => (.nothing, g.drop i)

end Guards

end Testbench.Irql
