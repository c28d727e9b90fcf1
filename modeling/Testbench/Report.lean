import Testbench.World

/-!
# Reports

Test code reports through the filament of its thread and is told what to do next: to go on, to break
into the debugger, or to unwind with a signal. A thread without a boundary cannot fail a routine, so
where others would unwind it ends. There is never a debugger here.
-/

namespace Testbench

/-- What a reporting thread is to do next. -/
inductive Verdict
  /-- Go on. -/
  | proceed
  /-- Go on, by breaking into the debugger. -/
  | breakIn
  /-- Unwind. -/
  | raise (s : Signal)
deriving DecidableEq, Repr

/-- The text of a failed comparison. -/
def comparisonText (expected actual : UInt32) (expression : String) : String :=
  "Comparison failed. Expected: 0x" ++ Text.hexPadded 8 expected.toNat
    ++ ", Actual: 0x" ++ Text.hexPadded 8 actual.toNat
    ++ " (Expression: " ++ expression ++ ")"

/-- Where an assertion stands. -/
structure Site where
  file : String
  routine : String
  line : UInt32
deriving DecidableEq, Repr

/-- The event of an assertion that did not hold. -/
def Site.detail (s : Site) (expression : String) : Event.Detail :=
  .failedAssertion s.file s.routine s.line expression

namespace Verdict

variable {ρ ε : Type}

/-- Acts on a verdict; what remains is the disposition that the caller is told. -/
def apply : Verdict → World.Act ρ ε Disposition
  | proceed => return .proceed
  | breakIn => return .breakIn
  | raise s => Flow.unwind (.signal s)

/-- What becomes of a report by a thread without a filament. -/
def ofUnknownThread : Registry.Kind → Verdict
  | .program => raise .threadTerminated
  | .driver => proceed

/-- How a thread fails with a signal. -/
def ofFailure (m : Member) (s : Signal) : Verdict :=
  if m.guarded then raise s else raise .threadTerminated

/-- What the answer to a failed assertion means for the thread that reported it. -/
def ofDisposition (m : Member) : Disposition → Verdict
  | .proceed => proceed
  | .breakAlways => breakIn
  | .breakIn => ofFailure m .failed
  | .abort => ofFailure m .failedAbort

end Verdict

namespace Report

open World

variable {ρ ε : Type}

/-- Does something with the place of the running thread, which is adopted if need be. -/
def asMember (reg : RegistryId) (f : Member → Act ρ ε Verdict) : Act ρ ε Verdict := do
  match ← membership reg true with
  | .ok m => f m
  | .error _ =>
    let kind ← seeRoster fun r => ((r.registries.get? reg).map Registry.kind).getD .program
    return .ofUnknownThread kind

/-- Reports an event of a thread in its place. -/
def send (m : Member) (detail : Event.Detail) : Act ρ ε Disposition := do
  let stack ← stackFor m.filament
  report (← observerOf m.filament) m.identity ⟨detail, stack⟩

/-- Reports that an assertion did not hold. -/
def assertion (reg : RegistryId) (site : Site) (expression : String) : Act ρ ε Verdict :=
  asMember reg fun m => return .ofDisposition m (← send m (site.detail expression))

/-- Compares two words and reports a failed assertion if they differ. -/
def comparison (reg : RegistryId) (expected actual : UInt32) (site : Site) (expression : String) :
    Act ρ ε Verdict :=
  if expected = actual then return .proceed
  else assertion reg site (comparisonText expected actual expression)

/-- Reports that the routine cannot decide, which ends it. -/
def inconclusiveness (reg : RegistryId) (message : String) : Act ρ ε Verdict :=
  asMember reg fun m => do
    let _ ← send m (.inconclusiveness message)
    return .ofFailure m .inconclusive

/-- Reports a message. -/
def log (reg : RegistryId) (message : String) : Act ρ ε Verdict :=
  asMember reg fun m => do
    let _ ← send m (.log message)
    return .proceed

/-- Fails the routine without an event. -/
def failure (reg : RegistryId) : Act ρ ε Verdict :=
  asMember reg fun m => return .ofFailure m .failed

/-- Breaks into the debugger; as there is none, this unwinds. -/
def debugBreak : Act ρ ε Unit := Flow.unwind (.signal .breakpoint)

/-- A value of the running thread's filament. -/
def value (reg : RegistryId) (derive : Bool) (tag : ValueTag) :
    Act ρ ε (Except FilamentError UInt64) := do
  match ← membership reg derive with
  | .error e => return .error e
  | .ok m => return .ok (← seeFilament m.filament 0 (·.value tag))

/-- Sets a value of the running thread's filament. -/
def setValue (reg : RegistryId) (derive : Bool) (tag : ValueTag) (v : UInt64) :
    Act ρ ε (Except FilamentError Unit) := do
  match ← membership reg derive with
  | .error e => return .error e
  | .ok m =>
    changeFilament m.filament (·.setValue tag v)
    return .ok ()

end Report

end Testbench
