import Testbench.Catalog.Keyed
import Testbench.Filament.Roster

/-!
# Connections to drivers

A connection stands for one driver: its numbered module, the registry that binds the threads of its
routines, and two kinds of hold on it. The driver holds it through its handle until it disconnects,
and then the connection is no longer available. Clients hold it by references, which are counted,
the driver's own among them. An unload lock keeps the two apart: calls hold it shared, any number of
them, and the driver takes it alone to disconnect, so that it waits for the calls that are in.
-/

namespace Testbench

variable {ρ : Type}

/-- The name of a connection. -/
abbrev ConnectionId := Nat

/-- A connected driver. -/
structure Connection (ρ : Type) where
  /-- Where the driver was loaded, by which it is known. -/
  address : UInt64
  routines : Keyed ρ
  /-- The registry of their threads. -/
  registry : RegistryId
  /-- The version of the sink that the driver reports through. -/
  sinkVersion : UInt32
  /-- How long a call waits for the threads it started. -/
  joinLimit : Duration
  /-- Whether the driver still holds its handle. -/
  available : Bool := true
  /-- How many references there are, that of the handle included. -/
  references : Nat := 1
  /-- How many calls hold the unload lock. -/
  calls : Nat := 0

namespace Connection

/-- Whether somebody holds the connection. -/
def isLive (c : Connection ρ) : Bool := 0 < c.references

/-- Takes a reference. -/
def retain (c : Connection ρ) : Connection ρ := { c with references := c.references + 1 }

/-- Gives a reference back. -/
def release (c : Connection ρ) : Connection ρ := { c with references := c.references - 1 }

/-- Takes the unload lock for a call. -/
def enter (c : Connection ρ) : Connection ρ := { c with calls := c.calls + 1 }

/-- Gives the unload lock back after a call. -/
def leave (c : Connection ρ) : Connection ρ := { c with calls := c.calls - 1 }

/-- Whether the driver could take the unload lock now. -/
def isIdle (c : Connection ρ) : Bool := c.calls == 0

/-- Ends availability; only ever done under the unload lock. -/
def close (c : Connection ρ) : Connection ρ := { c with available := false }

end Connection

end Testbench
