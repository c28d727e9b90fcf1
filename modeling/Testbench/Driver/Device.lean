import Testbench.Driver.Connection

/-!
# The device

The device is where drivers connect. Its table files connections by address, and an entry does not
hold its connection: one whose references are all gone is as good as not there, and takes its own
entry out when it goes away. Once the table is torn down nothing is found, filed or taken out.
-/

namespace Testbench

variable {ρ : Type}

/-- Why a connection is not found or not filed. -/
inductive TableError
  /-- No connection is live at this address. -/
  | notFound (address : UInt64)
  /-- A live connection is filed at this address. -/
  | alreadyRegistered (address : UInt64)
  /-- The table was torn down. -/
  | tornDown
deriving DecidableEq, Repr

instance : Text.Explained TableError where
  cause
    | .notFound address =>
      ⟨"NotFound", "no driver connected at " ++ Text.hex address.toNat⟩
    | .alreadyRegistered address =>
      ⟨"AlreadyRegistered", "a driver is already connected at " ++ Text.hex address.toNat⟩
    | .tornDown => ⟨"TornDown", "connection registry has been torn down"⟩
  sources _ := []

/-- All connections there ever were, and the table of those that can be found. -/
structure Device (ρ : Type) where
  connections : Pool (Connection ρ) := .empty
  /-- Whether the table was torn down. -/
  tornDown : Bool := false
  /-- The entries of the table, by ascending address. -/
  entries : List (UInt64 × ConnectionId) := []
  /-- How long calls into drivers that connect from now on wait for their threads. -/
  joinLimit : Duration := .ofSeconds 60

/-- What a listing came to. -/
structure Listing where
  /-- The addresses that were written. -/
  written : List UInt64
  /-- How many there are. -/
  available : Nat
deriving DecidableEq, Repr

namespace Listing

/-- Whether all addresses were written. -/
def isComplete (l : Listing) : Bool := l.written.length == l.available

end Listing

namespace Device

/-- The connection of a name. -/
def get? (d : Device ρ) (c : ConnectionId) : Option (Connection ρ) := d.connections.get? c

/-- Changes a connection. -/
def modify (d : Device ρ) (c : ConnectionId) (f : Connection ρ → Connection ρ) : Device ρ :=
  { d with connections := d.connections.modify c f }

/-- Whether a connection has references left. -/
def isLive (d : Device ρ) (c : ConnectionId) : Bool := (d.get? c).any Connection.isLive

/-- Whether the driver of a connection still holds its handle. -/
def isAvailable (d : Device ρ) (c : ConnectionId) : Bool := (d.get? c).any Connection.available

/-- The connection that is filed at an address. -/
def entry? (d : Device ρ) (address : UInt64) : Option ConnectionId :=
  (d.entries.find? (·.1 = address)).map Prod.snd

/-- Files a connection at an address, in place of what is filed there. -/
def insertEntry (address : UInt64) (c : ConnectionId) :
    List (UInt64 × ConnectionId) → List (UInt64 × ConnectionId)
  | [] => [(address, c)]
  | e :: es =>
    if address < e.1 then (address, c) :: e :: es
    else if address = e.1 then (address, c) :: es
    else e :: insertEntry address c es

/-- Files a connection under its address, unless a live one is filed there. -/
def register (d : Device ρ) (c : ConnectionId) : Except TableError Unit × Device ρ :=
  match d.get? c with
  | none => (.ok (), d)
  | some connection =>
    if d.tornDown then (.error .tornDown, d)
    else if (d.entry? connection.address).any d.isLive then
      (.error (.alreadyRegistered connection.address), d)
    else (.ok (), { d with entries := insertEntry connection.address c d.entries })

/-- Takes a connection out of the table if it is the one filed at an address. -/
def unregister (d : Device ρ) (address : UInt64) (c : ConnectionId) : Device ρ :=
  if d.tornDown then d
  else { d with entries := d.entries.filter fun e => !(e.1 == address && e.2 == c) }

/-- Finds the connection at an address and takes a reference to it. -/
def lookup (d : Device ρ) (address : UInt64) : Except TableError ConnectionId × Device ρ :=
  if d.tornDown then (.error .tornDown, d)
  else match d.entry? address with
    | none => (.error (.notFound address), d)
    | some c =>
      if d.isLive c then (.ok c, d.modify c .retain) else (.error (.notFound address), d)

/-- Gives a reference back. With the last one the connection goes away, and takes itself out of the
table. -/
def release (d : Device ρ) (c : ConnectionId) : Device ρ :=
  let d := d.modify c .release
  match d.get? c with
  | none => d
  | some connection => if connection.isLive then d else d.unregister connection.address c

/-- Lets the driver of a connection go: the connection is no longer available, and the driver's
reference is given back. -/
def disconnect (d : Device ρ) (c : ConnectionId) : Device ρ := (d.modify c .close).release c

/-- The addresses at which a live connection is filed, ascending. -/
def addresses (d : Device ρ) : List UInt64 :=
  (d.entries.filter fun e => d.isLive e.2).map Prod.fst

/-- Writes addresses into so many slots. -/
def list (d : Device ρ) (slots : Nat) : Listing :=
  ⟨d.addresses.take slots, d.addresses.length⟩

/-- Tears the table down. -/
def tearDown (d : Device ρ) : Device ρ := { d with tornDown := true, entries := [] }

/-- Makes a connection, which is not filed yet. -/
def make (d : Device ρ) (connection : Connection ρ) : ConnectionId × Device ρ :=
  let (c, connections) := d.connections.add connection
  (c, { d with connections })

end Device

end Testbench
