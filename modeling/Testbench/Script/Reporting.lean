import Testbench.Script.Store

/-!
# Reporting along a path

The primitives of reporting as scripted routines use them: the same for every path, and acted upon
at once. Registries adopt the thread that reports and act on the verdict as it is; a sink knows its
own way.
-/

namespace Testbench.Script.Path

open World

/-- The registry of a path. -/
def registry : Path → RegistryId
  | own => ownRegistry
  | shared => sharedRegistry
  | sink s => s.registry

/-- Reports that an assertion did not hold. -/
def assertion (p : Path) (formatted : Bool) (site : Site) (expression : String) :
    Play (Except SinkError Disposition) :=
  match p with
  | own | shared => do return .ok (← (← Report.assertion p.registry site expression).apply)
  | sink s =>
    if formatted then s.formattedAssertion site expression
    else do return .ok (← s.assertion site expression)

/-- Compares two words. -/
def comparison (p : Path) (expected actual : UInt32) (site : Site) (expression : String) :
    Play Disposition :=
  match p with
  | own | shared => do
    (← Report.comparison p.registry expected actual site expression).apply
  | sink s => s.comparison expected actual site expression

/-- Reports that the routine cannot decide. -/
def inconclusiveness (p : Path) (message : String) : Play Unit :=
  match p with
  | own | shared => do let _ ← (← Report.inconclusiveness p.registry message).apply
  | sink s => s.inconclusiveness message

/-- Reports a message. -/
def log (p : Path) (message : String) : Play Unit :=
  match p with
  | own | shared => do let _ ← (← Report.log p.registry message).apply
  | sink s => s.log message

/-- Fails. -/
def failure (p : Path) : Play (Except SinkError Unit) :=
  match p with
  | own | shared => do
    let _ ← (← Report.failure p.registry).apply
    return .ok ()
  | sink s => s.failure

/-- The note of a value, or of why there is none. -/
def valueNote {ε : Type} [Text.Explained ε] : Except ε UInt64 → Note
  | .ok v => .word v
  | .error why => .error (Text.explain why)

/-- The note of something that is done, or of why it is not. -/
def doneNote {ε : Type} [Text.Explained ε] : Except ε Unit → Note
  | .ok () => .done
  | .error why => .error (Text.explain why)

/-- Reads a value of the filament. -/
def value (p : Path) (tag : ValueTag) : Play Note :=
  match p with
  | own | shared => do return valueNote (← Report.value p.registry true tag)
  | sink s => do return valueNote (← s.value tag)

/-- Sets a value of the filament. In the scenario's own registry the note is the value that is there
afterwards. -/
def setValue (p : Path) (tag : ValueTag) (v : UInt64) : Play Note :=
  match p with
  | own => do
    match ← Report.setValue p.registry true tag v with
    | .error why => return .error (Text.explain why)
    | .ok () => p.value tag
  | shared => do return doneNote (← Report.setValue p.registry true tag v)
  | sink s => do return doneNote (← s.setValue tag v)

/-- Starts a child thread. -/
def startThread (p : Path) : Play (Except (List Text.Cause) Child.Ticket) :=
  match p with
  | own | shared => do return (← Child.start p.registry).mapError Text.explain
  | sink s => do return (← s.startThread).mapError Text.explain

/-- The registry that tells a thread its place; drivers have none that they could ask. -/
def placeRegistry : Path → RegistryId
  | own => ownRegistry
  | shared | sink _ => sharedRegistry

/-- The place of the running thread. -/
def place (p : Path) (derive : Bool) : Play (Except FilamentError Place) := do
  match ← membership p.placeRegistry derive with
  | .error why => return .error why
  | .ok m =>
    let place : Filament → Place := fun f =>
      ⟨m.identity.isChild, m.guarded, f.flags.isDefault, f.flags.capturesStacks, f.running⟩
    return .ok (← seeFilament m.filament ⟨false, false, false, false, 0⟩ place)

/-- Unbinds the running thread; driver code leaves it bound. -/
def reset (p : Path) : Play Unit :=
  match p with
  | own | shared => detach p.registry
  | sink _ => return ()

end Testbench.Script.Path
