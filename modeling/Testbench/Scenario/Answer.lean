import Testbench.Script.Store

/-!
# Answers of a scenario

What the commands of a scenario are answered, together with the trace that routines left meanwhile.
-/

namespace Testbench.Scenario

open Script

/-- What the run of an action came to. -/
structure RunAnswer where
  result : RunResult
  /-- How many threads are bound in the scenario's registry afterwards. -/
  bound : Nat
  /-- Whether that registry has a default filament afterwards. -/
  default : Bool
  /-- The level afterwards. -/
  level : Irql
  /-- What the recorder put into its books. -/
  books : BookExtract

/-- A connection as it is shown. -/
structure ConnectionView where
  address : UInt64
  /-- The version of its sink. -/
  sink : UInt32
  /-- Whether its driver is available. -/
  available : Bool
  /-- The number of its fixtures. -/
  fixtures : Nat
deriving DecidableEq, Repr

/-- What became of a disconnection during a call. -/
structure OverlapAnswer where
  /-- Whether the routine waited for it. -/
  parked : Bool
  /-- Whether the driver was gone before the routine went on. -/
  early : Bool
  /-- Whether the driver was available while the routine waited, and when all was over. -/
  available : Bool × Bool
  /-- The call. -/
  first : CallAnswer
  /-- The same call once more. -/
  second : CallAnswer

/-- The answer to a command. -/
inductive Answer
  | done
  /-- It failed. -/
  | error (why : List Text.Cause)
  /-- Nothing is there under the name. -/
  | nothing
  /-- No driver is connected under the name. -/
  | notConnected
  /-- A truth value. -/
  | truth (b : Bool)
  /-- A module; the places of fixtures that were looked up with the names of their test cases; and
  the module in full, if that was asked for. -/
  | catalog (m : Module Routine) (found : List (Option Nat × Option String))
    (inFull : Option String)
  /-- An answer to events. -/
  | disposition (d : Disposition)
  /-- An action that runs a fixture of this name, which belongs to a module or not. -/
  | action (fixture : String) (inModule : Bool)
  /-- The extent of a sequence, or of the table of drivers. -/
  | extent (e : Extent)
  | run (r : RunAnswer)
  /-- Something unwound. -/
  | unwound (payload : Payload)
  /-- A new connection. -/
  | connection (c : ConnectionView)
  /-- A connection that is held now. -/
  | held (address : UInt64) (available : Bool)
  | call (reply : CallReply)
  /-- A disconnection during a call. -/
  | overlap (a : OverlapAnswer)
  /-- A request, and the events in its output if it was a call. -/
  | exchange (x : Driver.Exchange) (events : Option Record.Reading)
  /-- A listing in so many slots. -/
  | listing (l : Listing) (slots : Nat)
  /-- Addresses of drivers. -/
  | addresses (a : List UInt64)
  /-- A catalog. -/
  | description (info : Image.ModuleInfo)
  | level (l : Irql)

/-- An answer with the trace that was left meanwhile. -/
structure Response where
  answer : Answer
  trace : List Entry

end Testbench.Scenario
