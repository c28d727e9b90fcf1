/-!
# Flag words

Words of 32 bits of which the lowest few are flags. The other bits are reserved: they are kept as
they are and mean nothing.
-/

namespace Testbench

/-- Whether bit `i` of a word is set. -/
def testBit (word : UInt32) (i : UInt32) : Bool := (word >>> i) &&& 1 == 1

/-- The word with bit `i` set or cleared and all others as they were. -/
def assignBit (word : UInt32) (i : UInt32) (b : Bool) : UInt32 :=
  if b then word ||| (1 <<< i) else word &&& ~~~(1 <<< i)

/-- When a failure ends a fixture and when it ends the run. -/
structure ExecutionFlags where
  /-- The word. -/
  bits : UInt32 := 0
deriving DecidableEq, Repr

namespace ExecutionFlags

/-- A failed test case ends its fixture. -/
def endsFixture (f : ExecutionFlags) : Bool := testBit f.bits 0

/-- A failed setup ends the run. -/
def setupEndsRun (f : ExecutionFlags) : Bool := testBit f.bits 1

/-- Any failure ends the run. -/
def endsRun (f : ExecutionFlags) : Bool := testBit f.bits 2

/-- A fixture that was ended early fails the run. -/
def escalates (f : ExecutionFlags) : Bool := testBit f.bits 3

/-- Sets or clears `endsFixture`. -/
def withEndsFixture (f : ExecutionFlags) (b : Bool) : ExecutionFlags := ⟨assignBit f.bits 0 b⟩

/-- Sets or clears `setupEndsRun`. -/
def withSetupEndsRun (f : ExecutionFlags) (b : Bool) : ExecutionFlags := ⟨assignBit f.bits 1 b⟩

/-- Sets or clears `endsRun`. -/
def withEndsRun (f : ExecutionFlags) (b : Bool) : ExecutionFlags := ⟨assignBit f.bits 2 b⟩

/-- Sets or clears `escalates`. -/
def withEscalates (f : ExecutionFlags) (b : Bool) : ExecutionFlags := ⟨assignBit f.bits 3 b⟩

end ExecutionFlags

/-- What a fixture asks of those who run it. -/
structure FixtureFlags where
  /-- The word. -/
  bits : UInt32 := 0
deriving DecidableEq, Repr

namespace FixtureFlags

/-- Test code starts threads of its own and reports from them. -/
def anonymousThreads (f : FixtureFlags) : Bool := testBit f.bits 0

/-- Sets or clears `anonymousThreads`. -/
def withAnonymousThreads (f : FixtureFlags) (b : Bool) : FixtureFlags := ⟨assignBit f.bits 0 b⟩

end FixtureFlags

/-- What sort of filament a filament is. -/
structure FilamentFlags where
  /-- The word. -/
  bits : UInt32 := 0
deriving DecidableEq, Repr

namespace FilamentFlags

/-- Stands in for the threads that nobody bound. -/
def isDefault (f : FilamentFlags) : Bool := testBit f.bits 0

/-- Events carry the stack of the thread that reports them. -/
def capturesStacks (f : FilamentFlags) : Bool := testBit f.bits 1

/-- Sets or clears `isDefault`. -/
def withDefault (f : FilamentFlags) (b : Bool) : FilamentFlags := ⟨assignBit f.bits 0 b⟩

/-- Sets or clears `capturesStacks`. -/
def withCapture (f : FilamentFlags) (b : Bool) : FilamentFlags := ⟨assignBit f.bits 1 b⟩

end FilamentFlags

end Testbench
