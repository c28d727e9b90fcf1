/-!
# Interrupt request levels

Every thread runs at a level. A level can be raised and lowered, and a request in the wrong
direction leaves it as it is. Some levels have names.
-/

namespace Testbench

/-- An interrupt request level. -/
structure Irql where
  height : UInt8
deriving DecidableEq, Repr, Inhabited

namespace Irql

/-- The level of ordinary code. -/
def passive : Irql := ⟨0⟩

/-- The level at which asynchronous calls are held off. -/
def apc : Irql := ⟨1⟩

/-- The level at which no thread is preempted. -/
def dispatch : Irql := ⟨2⟩

/-- The level at which spin locks are held. -/
def synch : Irql := ⟨12⟩

instance : LT Irql := ⟨fun a b => a.height < b.height⟩

instance (a b : Irql) : Decidable (a < b) := inferInstanceAs (Decidable (a.height < b.height))

/-- The name of a level, or its height if it has none. -/
def text (l : Irql) : String :=
  if l = passive then "PASSIVE_LEVEL"
  else if l = apc then "APC_LEVEL"
  else if l = dispatch then "DISPATCH_LEVEL"
  else if l = synch then "SYNCH_LEVEL"
  else "IRQL " ++ toString l.height.toNat

/-- The level after a request to go up from `current` to `level`. -/
def raised (current level : Irql) : Irql := if level < current then current else level

/-- The level after a request to go down from `current` to `level`. -/
def lowered (current level : Irql) : Irql := if current < level then current else level

/-- The higher of two levels. -/
def highest (a b : Irql) : Irql := if b < a then a else b

end Irql

end Testbench
