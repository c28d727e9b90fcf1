import Testbench.Run.Fixture
import Testbench.Script.Step

/-!
# Commands of a scenario

A scenario is a list of commands to one scene. Commands give names to modules, actions, recorders,
drivers and held connections, and use what has a name. Routines are given as lists of steps.
-/

namespace Testbench.Scenario

open Script

/-- A fixture whose routines are lists of steps. -/
abbrev FixtureScript : Type := Fixture (List Step)

/-- Where the fixture of an action comes from. -/
inductive FixtureSource
  /-- The fixture in some place of the module under a name. -/
  | module (id : String) (index : Nat)
  /-- A fixture that belongs to no module. -/
  | standalone (f : FixtureScript)

/-- A command of a scenario. -/
inductive Command
  /-- Makes a module whose routines report along a path. -/
  | module (id : String) (path : Path) (name : String) (fixtures : List FixtureScript)
  /-- Shows a module, with lookups of fixtures and their test cases by name. -/
  | catalog (id : String) (lookups : List (String × String)) (inFull : Bool)
  /-- Makes a recorder. -/
  | recorder (id : String) (settings : Settings)
  /-- Changes the settings of a recorder. -/
  | configure (id : String) (settings : Settings)
  /-- Asks a recorder for its answer to events of a kind. -/
  | query (id : String) (kind : EventKind)
  /-- Makes an action that runs a fixture, or one of its test cases. -/
  | action (id : String) (source : FixtureSource) (path : Path) (options : ExecutionOptions)
    (selection : Option String)
  /-- Makes an empty sequence. -/
  | sequence (id : String)
  /-- Adds an action to a sequence. -/
  | add (sequence action : String)
  /-- Runs an action. -/
  | run (action recorder : String)
  /-- Does some steps outside of any routine. -/
  | steps (path : Path) (steps : List Step)
  /-- Calls the routine of a test case outside of any run. -/
  | callCase (id : String) (fixture case : Nat)
  /-- Sets how long calls into drivers that connect from now on wait for their threads. -/
  | joinLimit (limit : Duration)
  /-- Connects a driver. -/
  | connect (id : String) (address : UInt64) (version : UInt32) (name : String)
    (fixtures : List FixtureScript)
  /-- Lets a driver go. -/
  | disconnect (id : String)
  /-- Looks a connection up and holds it. -/
  | hold (id : String) (address : UInt64)
  /-- Asks whether the driver of a held connection is available. -/
  | available (id : String)
  /-- Lets a held connection go. -/
  | release (id : String)
  /-- Files a held connection. -/
  | register (id : String)
  /-- Takes a held connection out of the table at an address. -/
  | unregister (id : String) (address : UInt64)
  /-- Calls a routine of a driver. -/
  | call (plan : CallPlan)
  /-- Disconnects a driver while a call of one of its routines is under way. -/
  | overlap (id : String) (plan : CallPlan)
  /-- Makes a request to the device with an output buffer of some size. -/
  | control (code : UInt32) (input : List UInt8) (size : Nat)
  /-- Lists the connected drivers in so many slots. -/
  | list (slots : Nat)
  /-- Counts the connected drivers. -/
  | count
  /-- Tears the table of the device down. -/
  | unload
  /-- Lists the connected drivers as a client does. -/
  | clientList
  /-- Reads a catalog as a client does. -/
  | clientQuery (address : UInt64)
  /-- Loads the module of a driver as a client does. -/
  | clientLoad (id : String) (address : UInt64) (name : String)
  /-- Sets how many bytes the events of a call may take for clients from now on. -/
  | eventBuffer (size : Nat)
  /-- Brings the thread of the scenario to a level. -/
  | level (l : Irql)

end Testbench.Scenario
