import Testbench.Event.Buffer
import Testbench.Observer.Contract

/-!
# Channels

A channel is the observer of a single call into a driver: it collects the events in a buffer and
answers as the client wished beforehand. Fixtures and test cases are the client's affair, so it is
indifferent to them.
-/

namespace Testbench

/-- An observer that collects events for the client of a driver. -/
structure Channel where
  /-- Its answers. -/
  dispositions : Dispositions
  /-- The events since they were last taken. -/
  buffer : EventBuffer

namespace Channel

/-- A channel whose events take at most `capacity` bytes. -/
def make (dispositions : Dispositions) (capacity : Nat) : Channel :=
  ⟨dispositions, .empty capacity⟩

/-- Appends an event and answers whether it fitted. -/
def queue (c : Channel) (e : Event) : Bool × Channel :=
  let (fitted, buffer) := c.buffer.queue e
  (fitted, { c with buffer })

/-- The answer that an event of a kind gets. -/
def query (c : Channel) (kind : EventKind) : Disposition := c.dispositions.answer kind

/-- Takes an event. The answer does not depend on whether it fitted. -/
def report (c : Channel) (e : Event) : Disposition × Channel :=
  let (_, c) := c.queue e
  (c.query e.kind, c)

/-- Takes out the events and leaves an empty buffer of the same capacity. -/
def take (c : Channel) : EventBuffer × Channel :=
  (c.buffer, { c with buffer := .empty c.buffer.capacity })

end Channel

end Testbench
