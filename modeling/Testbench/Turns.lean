import Testbench.Bookshelf
import Testbench.Child
import Testbench.Report

/-!
# Threads that take turns

Everything that can be done with filaments and registries, done by threads with names that take
turns. A thread is there from its first turn on until its last; filaments, registries and recorders
have names as well. Registries for programs and for drivers have names of their own, and default
filaments are a matter of the former. What a thread is told to do after a report it does not do.
-/

namespace Testbench.Turns

open World

/-- What a thread does in its turn. -/
inductive Deed
  /-- Makes a recorder. -/
  | recorder (name : String) (settings : Settings)
  /-- Makes a filament. -/
  | filament (name recorder : String) (captures : Bool)
  /-- Binds itself. -/
  | bind (filament : String)
  /-- Unbinds itself. -/
  | reset
  /-- Asks for its place. -/
  | place (derive : Bool)
  /-- Installs a default filament. -/
  | install (name recorder : String) (captures : Bool)
  /-- Revokes a default filament. -/
  | revoke (name : String)
  /-- Asks for the default filament. -/
  | default
  /-- Counts the bound threads. -/
  | bound
  /-- Sets a value of a filament, if one is given, and reads both. -/
  | values (filament : String) (set : Option (ValueTag × UInt64))
  /-- Counts the children of a filament. -/
  | running (filament : String)
  /-- Waits for the children of a filament. -/
  | join (filament : String) (limit : Duration)
  /-- Reports that an assertion did not hold. -/
  | assertion (expression : String) (site : Site)
  /-- Compares two words. -/
  | comparison (expected actual : UInt32) (expression : String) (site : Site)
  /-- Reports that it cannot decide. -/
  | inconclusiveness (message : String)
  /-- Reports a message. -/
  | log (message : String)
  /-- Fails. -/
  | failure
  /-- Starts a child thread that does nothing, and waits for it. -/
  | spawn
  /-- Calls a routine in a filament that does nothing, or panics. -/
  | call (filament : String) (limit : Duration) (panic : Option String)
  /-- Changes the settings of a recorder. -/
  | configure (name : String) (settings : Settings)
  /-- Reads the books of a recorder. -/
  | books (recorder : String)
  /-- Reads the counts that a recorder has for a thread. -/
  | countsOf (recorder thread : String)
  /-- Ends. -/
  | exit

/-- A deed of some threads, one after the other. -/
structure Turn where
  threads : List String
  /-- The name of the registry that the deed is about. -/
  registry : String
  /-- Whether that registry is for drivers. -/
  forDrivers : Bool
  deed : Deed

/-- A thread's place, told in names. A name that is not known is left out. -/
structure PlaceView where
  filament : Option String
  /-- Whether a boundary waits for the thread to unwind. -/
  guarded : Bool
  /-- Whether it is a child. -/
  child : Bool
  mainThread : Option String
  thread : Option String
deriving DecidableEq, Repr

/-- What came of a deed. -/
inductive Answer
  | done
  /-- It failed. -/
  | error (why : List Text.Cause)
  /-- Nothing has that name. -/
  | nothing
  /-- The thread's place. -/
  | place (p : PlaceView)
  /-- A default filament was installed; whether it is one, and whether its events carry stacks. -/
  | installed (isDefault captures : Bool)
  /-- The default filament, if there is one with a name. -/
  | default (name : Option String)
  | number (n : Nat)
  /-- Two values, the one for test code first. -/
  | values (ordinary reserved : UInt64)
  /-- The number of children, and the main thread. -/
  | running (n : Nat) (mainThread : Option String)
  /-- What the thread is to do next. -/
  | verdict (v : Verdict)
  /-- A child thread ran; whether it did what it was given, and whether it returned. -/
  | spawned (ran returned : Bool)
  /-- A routine came out. -/
  | outcome (o : Outcome)
  /-- A routine unwound. -/
  | unwound (payload : Payload)
  /-- What is new in the books of a recorder. -/
  | books (b : BookExtract)
  | counts (c : EventCounts)

/-- What has a name. -/
structure Cast where
  /-- The threads that are there. -/
  threads : Names ThreadId := {}
  /-- The last thread that bore each name, whether or not it is there. -/
  lastOf : Names ThreadId := {}
  filaments : Names FilamentId := {}
  /-- The registries for programs. -/
  programs : Names RegistryId := {}
  /-- The registries for drivers. -/
  drivers : Names RegistryId := {}
  /-- The default filaments that were not revoked, with their registries. -/
  defaults : Names (RegistryId × FilamentId) := {}
  /-- The recorders. -/
  watchers : Names Watcher := {}

instance : Bookshelf Cast where
  watchers := Cast.watchers
  withWatchers c watchers := { c with watchers }

/-- A computation on the stage. Nobody calls routines by their names here. -/
abbrev Play (α : Type) : Type := Act Empty Cast α

/-! ### Names -/

/-- The thread of a name, which comes into being if it is not there. -/
def thread (name : String) : Play ThreadId := do
  match ← seeStore (·.threads.get? name) with
  | some t => return t
  | none =>
    let t ← newThread
    changeStore fun c => { c with
      threads := c.threads.put name t
      lastOf := c.lastOf.put name t }
    return t

/-- The registry for programs of a name, which comes into being if it is not there. -/
def program (name : String) : Play RegistryId := do
  match ← seeStore (·.programs.get? name) with
  | some reg => return reg
  | none =>
    let reg ← onRoster (·.newRegistry .program)
    changeStore fun c => { c with programs := c.programs.put name reg }
    return reg

/-- The registry for drivers of a name, which comes into being if it is not there. -/
def driver (name : String) : Play RegistryId := do
  match ← seeStore (·.drivers.get? name) with
  | some reg => return reg
  | none =>
    let reg ← onRoster (·.newRegistry .driver)
    changeStore fun c => { c with drivers := c.drivers.put name reg }
    return reg

/-- The name of a thread, unless another thread bears it by now. -/
def threadName (t : ThreadId) : Play (Option String) :=
  seeStore fun c => (c.lastOf.entries.find? (·.2 = t)).map Prod.fst

/-- The name of a filament. -/
def filamentName (f : FilamentId) : Play (Option String) :=
  seeStore fun c => (c.filaments.entries.find? (·.2 = f)).map Prod.fst

/-- Does something with the filament of a name. -/
def withFilament (name : String) (f : FilamentId → Play Answer) : Play Answer := do
  match ← seeStore (·.filaments.get? name) with
  | none => return .nothing
  | some i => f i

/-- Gives a filament a name. -/
def nameFilament (name : String) (f : FilamentId) : Play Unit :=
  changeStore fun c => { c with filaments := c.filaments.put name f }

/-! ### Deeds -/

/-- The answer to something that fails or is done. -/
def doneOr {ε : Type} [Text.Explained ε] : Except ε Unit → Answer
  | .ok () => .done
  | .error why => .error (Text.explain why)

/-- The thread's place. -/
def place (reg : RegistryId) (derive : Bool) : Play Answer := do
  match ← membership reg derive with
  | .error why => return .error (Text.explain why)
  | .ok m =>
    let filament ← filamentName m.filament
    let main ← threadName m.identity.mainThread
    let thread ← threadName m.identity.thread
    return .place ⟨filament, m.guarded, m.identity.isChild, main, thread⟩

/-- Revokes the default filament of a name, if it was installed. -/
def revoke (name : String) : Play Unit := do
  match ← seeStore (·.defaults.get? name) with
  | none => return ()
  | some (reg, f) =>
    changeStore fun c => { c with defaults := c.defaults.erase name }
    onRoster fun r => ((), r.revokeDefault reg f)

/-- Installs a default filament under a name; the one that was there is revoked. -/
def install (registry name recorder : String) (captures : Bool) : Play Answer := do
  let reg ← program registry
  let o ← Bookshelf.recorder recorder
  let t ← self
  match ← onRoster (·.installDefault reg o (({} : FilamentFlags).withCapture captures) t) with
  | .error why => return .error (Text.explain why)
  | .ok f =>
    revoke name
    nameFilament name f
    changeStore fun c => { c with defaults := c.defaults.put name (reg, f) }
    let flags ← seeFilament f {} Filament.flags
    return .installed flags.isDefault flags.capturesStacks

/-- The default filament of a registry. -/
def default (registry : String) : Play Answer := do
  let reg ← program registry
  match ← seeRoster (·.default? reg) with
  | none => return .default none
  | some f => return .default (← filamentName f)

/-- Both values of a filament. -/
def values (f : FilamentId) (set : Option (ValueTag × UInt64)) : Play Answer := do
  match set with
  | none => pure ()
  | some (tag, v) => changeFilament f (·.setValue tag v)
  seeFilament f (.values 0 0) fun x => .values x.ordinary x.reserved

/-- Starts a child thread that does nothing, and waits for it. -/
def spawn (reg : RegistryId) : Play Answer := do
  match ← Child.start reg with
  | .error why => return .error (Text.explain why)
  | .ok k => return .spawned true (← Child.finish k (return ())).isNone

/-- Calls a routine that does nothing, or panics. -/
def call (reg : RegistryId) (limit : Duration) (panic : Option String) (f : FilamentId) :
    Play Answer := do
  let routine : Play Unit := match panic with
    | none => return ()
    | some text => panicking (some text)
  match ← (Boundary.call reg f limit routine).attempt with
  | .error payload => return .unwound payload
  | .ok (.error why) => return .error (Text.explain why)
  | .ok (.ok o) => return .outcome o

/-- The counts that a recorder has for the last thread of a name. -/
def countsOf (recorder name : String) : Play Answer := do
  let r ← Bookshelf.books recorder
  match ← seeStore (·.lastOf.get? name) with
  | none => return .counts {}
  | some t => return .counts (r.countsFor t)

/-- What the running thread, which has a name, does in its turn. -/
def perform (name registry : String) (reg : RegistryId) : Deed → Play Answer
  | .recorder name settings => do
    let _ ← Bookshelf.make name settings
    return .done
  | .filament name recorder captures => do
    let o ← Bookshelf.recorder recorder
    nameFilament name (← newFilament o (({} : FilamentFlags).withCapture captures))
    return .done
  | .bind filament => withFilament filament fun f => do return doneOr (← attach reg f)
  | .reset => do
    detach reg
    return .done
  | .place derive => place reg derive
  | .install name recorder captures => install registry name recorder captures
  | .revoke name => do
    revoke name
    return .done
  | .default => default registry
  | .bound => do return .number (← seeRoster fun r => (r.table reg).size)
  | .values filament set => withFilament filament fun f => values f set
  | .running filament => withFilament filament fun f => do
    let (n, main) ← seeFilament f (0, 0) fun x => (x.running, x.mainThread)
    return .running n (← threadName main)
  | .join filament limit => withFilament filament fun f => do
    return doneOr (← joinChildren f limit)
  | .assertion expression site => do return .verdict (← Report.assertion reg site expression)
  | .comparison expected actual expression site => do
    return .verdict (← Report.comparison reg expected actual site expression)
  | .inconclusiveness message => do return .verdict (← Report.inconclusiveness reg message)
  | .log message => do return .verdict (← Report.log reg message)
  | .failure => do return .verdict (← Report.failure reg)
  | .spawn => spawn reg
  | .call filament limit panic => withFilament filament (call reg limit panic)
  | .configure name settings => do
    Bookshelf.configure name settings
    return .done
  | .books recorder => do return .books (← Bookshelf.read recorder)
  | .countsOf recorder thread => countsOf recorder thread
  | .exit => do
    endThread (← self)
    changeStore fun c => { c with threads := c.threads.erase name }
    return .done

/-- What came of the deed of each thread, in order. -/
def take (turn : Turn) : List String → List Answer → Play (List Answer)
  | [], answers => return answers.reverse
  | name :: rest, answers => do
    let reg ← if turn.forDrivers then driver turn.registry else program turn.registry
    let answer ← asThread (← thread name) (perform name turn.registry reg turn.deed)
    take turn rest (answer :: answers)

/-- What came of all turns. -/
def takeAll : List Turn → List (List Answer) → Play (List (List Answer))
  | [], answers => return answers.reverse
  | turn :: rest, answers => do
    let these ← take turn turn.threads []
    takeAll rest (these :: answers)

/-- Sorts a number under a name into others, by name. -/
def insertByName (e : String × Nat) : List (String × Nat) → List (String × Nat)
  | [] => [e]
  | x :: xs => if e.1 < x.1 then e :: x :: xs else x :: insertByName e xs

/-- How many threads are bound in each registry for programs, by name. -/
def boundPrograms : Play (List Nat) := do
  let programs ← seeStore (·.programs.entries)
  let sizes ← seeRoster fun r => programs.map fun e => (e.1, (r.table e.2).size)
  return (sizes.foldr insertByName []).map Prod.snd

/-- All turns, and how many threads are bound when all threads have ended. -/
def playAll (turns : List Turn) : Play (List (List Answer) × List Nat) := do
  let answers ← takeAll turns []
  let threads ← seeStore (·.threads.entries)
  threads.forM fun e => endThread e.2
  return (answers, ← boundPrograms)

end Turns

/-- What comes of threads that take turns: the answers of each turn, and for each registry for
programs, by name, how many threads are bound when all threads have ended. -/
def turns (ts : List Turns.Turn) : List (List Turns.Answer) × List Nat :=
  match Turns.playAll ts { store := {} } with
  | (.ok result, _) => result
  | (.error _, _) => ([], [])

end Testbench
