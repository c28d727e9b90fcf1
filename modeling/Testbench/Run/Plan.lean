import Testbench.Flow
import Testbench.Pool
import Testbench.Text.Cause

/-!
# Plans

A plan is made of actions that are added to each other: leaves, and sequences of actions. Running a
sequence runs its actions in order up to the first that stops the run. It is taken as it stands when
its turn comes; what is added to it meanwhile waits for the next time. A sequence is not added to
itself, though it may be added to one that it holds; running such a plan never comes to an end, and
here it runs out of the room that it was given to nest in.
-/

namespace Testbench

/-- The name of an action. -/
abbrev ActionId := Nat

/-- A part of a plan. -/
inductive Action (α : Type)
  /-- Something to do. -/
  | leaf (a : α)
  /-- Actions in order. -/
  | sequence (items : List ActionId)

/-- Actions that refer to each other. -/
structure Plan (α : Type) where
  actions : Pool (Action α) := .empty

/-- Why an action was not added to a sequence. -/
inductive PlanError
  /-- It is the sequence itself. -/
  | selfReference
deriving DecidableEq, Repr

instance : Text.Explained PlanError where
  cause
    | .selfReference => ⟨"SelfReference", "a sequence cannot contain itself"⟩
  sources _ := []

namespace Plan

variable {α σ ε : Type}

/-- The actions of a sequence; a leaf has none. -/
def items (p : Plan α) (s : ActionId) : List ActionId :=
  match p.actions.get? s with
  | some (.sequence items) => items
  | _ => []

/-- Makes an action. -/
def make (p : Plan α) (a : Action α) : ActionId × Plan α :=
  let (i, actions) := p.actions.add a
  (i, ⟨actions⟩)

/-- Adds an action to the end of a sequence. -/
def add (p : Plan α) (s what : ActionId) : Except PlanError Unit × Plan α :=
  if s = what then (.error .selfReference, p)
  else (.ok (), ⟨p.actions.modify s fun
    | .leaf a => .leaf a
    | .sequence items => .sequence (items ++ [what])⟩)

/-- Does things in order up to the first that stops. -/
def inOrder {β : Type} (f : β → Flow σ (Except ε Unit)) : List β → Flow σ (Except ε Unit)
  | [] => return .ok ()
  | i :: rest => do
    match ← f i with
    | .error e => return .error e
    | .ok () => inOrder f rest

/-- Runs an action, with room for sequences to nest so deep. `find` looks an action up when its turn
comes, and `leaf` runs a leaf. -/
def run (find : ActionId → Flow σ (Option (Action α))) (leaf : α → Flow σ (Except ε Unit)) :
    Nat → ActionId → Flow σ (Except ε Unit)
  | 0, _ => Flow.exhaust
  | depth + 1, i => do
    match ← find i with
    | none => return .ok ()
    | some (.leaf a) => leaf a
    | some (.sequence items) => inOrder (run find leaf depth) items

end Plan

end Testbench
