import Testbench.Script.Store

/-!
# Bodies

A body is one pass through a list of steps. Threads that its steps start may be put off until the
body is over: they run then, one after the other, whether the body returned or unwound, and before
anybody else learns how it ended. The steps before the end of a body see the threads put off so far.
-/

namespace Testbench.Script

/-- The scene together with what is put off until the body is over. -/
structure Situation where
  scene : Scene
  /-- What is put off, in the order in which it is to be done. -/
  putOff : Array (Play Unit)

/-- A computation within a body. -/
abbrev Body (α : Type) : Type := Flow Situation α

namespace Body

variable {α : Type}

/-- Does something within a body. -/
def lift (p : Play α) : Body α := fun s =>
  let (result, scene) := p s.scene
  (result, { s with scene })

/-- Puts something off until the body is over. -/
def defer (p : Play Unit) : Body Unit := Flow.change fun s => { s with putOff := s.putOff.push p }

/-- The number of things put off. -/
def deferred : Body Nat := Flow.see (·.putOff.size)

/-- Does things in order. -/
def inOrder : List (Play Unit) → Body Unit
  | [] => return ()
  | p :: rest => do
    lift p
    inOrder rest

/-- Does what was put off. -/
def catchUp : Body Unit := do
  let waiting ← Flow.step fun s => (s.putOff.toList, { s with putOff := #[] })
  inOrder waiting

/-- A whole body, with what it puts off. -/
def perform (b : Body Unit) : Play Unit := fun scene =>
  let (result, s) := (b.ensuring catchUp) ⟨scene, #[]⟩
  (result, s.scene)

/-- Does something again and again. -/
def repeated (b : Body Unit) : Nat → Body Unit
  | 0 => return ()
  | n + 1 => do
    b
    repeated b n

end Body

end Testbench.Script
