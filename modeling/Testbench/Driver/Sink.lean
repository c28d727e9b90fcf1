import Testbench.Child
import Testbench.Report

/-!
# Sinks

A driver reports through a sink. It is made for one of three versions, and the later a version the
more it offers. A sink looks threads up in the registry of the driver and adopts nobody, so reports
from strangers are ignored. It differs from reporting in programs in one more respect: a routine
that is to unwind from a raised level is lowered first, which is put on record.
-/

namespace Testbench

/-- What a driver reports through. -/
structure Sink where
  /-- The version that the driver asked for. -/
  version : UInt32
  /-- The registry that binds the threads of the driver. -/
  registry : RegistryId
deriving DecidableEq, Repr

/-- Why a sink does not do something. -/
inductive SinkError
  /-- No sink is made for this version. -/
  | unsupportedVersion (version : UInt32)
  /-- What was asked for comes with a later version. -/
  | notSupported (method : String) (required version : UInt32)
  /-- A thread was not started. -/
  | spawn (why : Child.SpawnError)
  /-- The thread belongs to no filament. -/
  | unknownThread
deriving DecidableEq, Repr

instance : Text.Explained SinkError where
  cause
    | .unsupportedVersion version =>
      ⟨"UnsupportedVersion", "report sink version " ++ Text.hex version.toNat ++ " is not supported"⟩
    | .notSupported method required version =>
      ⟨"NotSupported", method ++ " requires report sink version " ++ Text.hex required.toNat
        ++ ", the driver requested " ++ Text.hex version.toNat⟩
    | .spawn _ => ⟨"Spawn", "failed to create system thread"⟩
    | .unknownThread => ⟨"UnknownThread", "routine thread has no filament"⟩
  sources
    | .spawn why => Text.explain why
    | _ => []

namespace Sink

open World

variable {ρ ε α : Type}

/-- The version that offers assertions, comparisons, inconclusive results and messages. -/
def version₁ : UInt32 := 0x1000

/-- The version that adds formatted assertions, failures and values. -/
def version₂ : UInt32 := 0x2000

/-- The version that adds threads. -/
def version₃ : UInt32 := 0x3000

/-- Makes a sink of some version. -/
def make (version : UInt32) (reg : RegistryId) : Except SinkError Sink :=
  if version = version₁ ∨ version = version₂ ∨ version = version₃ then .ok ⟨version, reg⟩
  else .error (.unsupportedVersion version)

/-- Does something if the version of the sink offers it. -/
def requiring (s : Sink) (method : String) (required : UInt32)
    (f : Act ρ ε (Except SinkError α)) : Act ρ ε (Except SinkError α) :=
  if s.version < required then return .error (.notSupported method required s.version)
  else f

/-- Lowers a thread that is about to unwind to passive level, and puts that on record. -/
def settleLevel (s : Sink) : Act ρ ε Unit := do
  let level ← World.level
  if Irql.passive < level then
    match ← membership s.registry false with
    | .ok m =>
      let _ ← report (← observerOf m.filament) m.identity (.note
        ("Testcase aborted at elevated IRQL " ++ level.text ++ ", lowering to PASSIVE_LEVEL"))
    | .error _ => pure ()
    lowerLevel .passive

/-- Acts on a verdict. -/
def apply (s : Sink) (v : Verdict) : Act ρ ε Disposition := do
  match v with
  | .raise _ => s.settleLevel
  | .proceed | .breakIn => pure ()
  v.apply

/-- Reports that an assertion did not hold. -/
def assertion (s : Sink) (site : Site) (expression : String) : Act ρ ε Disposition := do
  s.apply (← Report.assertion s.registry site expression)

/-- Compares two words and reports a failed assertion if they differ. -/
def comparison (s : Sink) (expected actual : UInt32) (site : Site) (expression : String) :
    Act ρ ε Disposition := do
  s.apply (← Report.comparison s.registry expected actual site expression)

/-- Reports that the routine cannot decide. -/
def inconclusiveness (s : Sink) (message : String) : Act ρ ε Unit := do
  let _ ← s.apply (← Report.inconclusiveness s.registry message)

/-- Reports a message. -/
def log (s : Sink) (message : String) : Act ρ ε Unit := do
  let _ ← s.apply (← Report.log s.registry message)

/-- Reports that an assertion did not hold whose text was put together for the occasion. -/
def formattedAssertion (s : Sink) (site : Site) (message : String) :
    Act ρ ε (Except SinkError Disposition) :=
  s.requiring "report_failed_assertion_format" version₂ do
    return .ok (← s.assertion site message)

/-- Fails the routine without an event. -/
def failure (s : Sink) : Act ρ ε (Except SinkError Unit) :=
  s.requiring "fail" version₂ do
    let _ ← s.apply (← Report.failure s.registry)
    return .ok ()

/-- What is told of a thread's missing place: only that it is missing. -/
def ofMembership : Except FilamentError α → Except SinkError α
  | .ok a => .ok a
  | .error _ => .error .unknownThread

/-- A value of the running thread's filament. -/
def value (s : Sink) (tag : ValueTag) : Act ρ ε (Except SinkError UInt64) :=
  s.requiring "get_value" version₂ do
    return ofMembership (← Report.value s.registry false tag)

/-- Sets a value of the running thread's filament. -/
def setValue (s : Sink) (tag : ValueTag) (v : UInt64) : Act ρ ε (Except SinkError Unit) :=
  s.requiring "set_value" version₂ do
    return ofMembership (← Report.setValue s.registry false tag v)

/-- Starts a thread in the filament of the running thread. -/
def startThread (s : Sink) : Act ρ ε (Except SinkError Child.Ticket) :=
  s.requiring "create_system_thread" version₃ do
    match ← Child.start s.registry with
    | .ok ticket => return .ok ticket
    | .error why => return .error (.spawn why)

end Sink

end Testbench
