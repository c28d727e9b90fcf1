import Testbench.Filament

/-!
# Tables of bound threads

A table says which filament a thread is bound to. A thread is in it at most once, and the table has
room for `maxThreads` threads. Taking a binding out moves the last one into its place, so the order
of the list means nothing.
-/

namespace Testbench

/-- A thread's membership in a filament. -/
structure Binding where
  thread : ThreadId
  filament : FilamentId
  /-- Whether a boundary waits for the thread to unwind. -/
  guarded : Bool
deriving DecidableEq, Repr

/-- The bindings of some threads. -/
structure ThreadTable where
  /-- The bindings, in no particular order. -/
  bindings : List Binding := []
deriving DecidableEq, Repr

namespace ThreadTable

/-- The greatest number of threads. -/
def maxThreads : Nat := 256

/-- The number of bound threads. -/
def size (t : ThreadTable) : Nat := t.bindings.length

/-- The place of a thread. -/
def position? (t : ThreadTable) (thread : ThreadId) : Option Nat :=
  t.bindings.findIdx? (·.thread = thread)

/-- The binding of a thread. -/
def lookup? (t : ThreadTable) (thread : ThreadId) : Option Binding :=
  t.bindings.find? (·.thread = thread)

/-- Whether a thread is bound to a filament. -/
def isBoundTo (t : ThreadTable) (thread : ThreadId) (f : FilamentId) : Bool :=
  match t.lookup? thread with
  | some b => b.filament == f
  | none => false

/-- Adds a binding, unless its thread is bound or there is no room. -/
def bind (t : ThreadTable) (b : Binding) : Except FilamentError Unit × ThreadTable :=
  if (t.position? b.thread).isSome then (.error .conflict, t)
  else if maxThreads ≤ t.size then (.error (.tooManyThreads t.size), t)
  else (.ok (), ⟨t.bindings ++ [b]⟩)

/-- Takes out the binding in place `i`; the last one moves into its place. -/
def removeAt (t : ThreadTable) (i : Nat) : ThreadTable :=
  match t.bindings.getLast? with
  | none => t
  | some last => ⟨(t.bindings.set i last).dropLast⟩

/-- Takes out the binding of a thread. -/
def unbind (t : ThreadTable) (thread : ThreadId) : Option Binding × ThreadTable :=
  match t.position? thread with
  | none => (none, t)
  | some i => (t.bindings[i]?, t.removeAt i)

/-- Takes out the binding of a thread if it is bound to a filament. -/
def unbindIf (t : ThreadTable) (thread : ThreadId) (f : FilamentId) :
    Option Binding × ThreadTable :=
  if t.isBoundTo thread f then t.unbind thread else (none, t)

/-- Takes out all bindings to a filament. -/
def unbindFilament (t : ThreadTable) (f : FilamentId) : List Binding × ThreadTable :=
  (t.bindings.filter (·.filament = f), ⟨t.bindings.filter (·.filament ≠ f)⟩)

end ThreadTable

end Testbench
