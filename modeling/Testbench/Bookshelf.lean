import Testbench.Names
import Testbench.Observer.Settings
import Testbench.World

/-!
# Recorders under names

A bookshelf gives names to recorders and remembers how much of the books of each was read, so that
whoever reads them next begins where the last reader stopped. Every store that keeps a bookshelf
offers the same: recorders are made and changed by settings, looked up, and read.
-/

namespace Testbench

/-- A recorder under a name, with how much of its books was read. -/
structure Watcher where
  /-- The recorder. -/
  observer : ObserverId
  /-- How many callbacks were read. -/
  history : Nat := 0
  /-- How many events were read. -/
  events : Nat := 0
  /-- How many messages of panics were read. -/
  unhandled : Nat := 0

/-- What a recorder put into its books since they were last read. -/
structure BookExtract where
  /-- The callbacks. -/
  history : List Callback
  events : List Event
  /-- The messages of panics that no report explained. -/
  unhandled : List String
  /-- The counts of all threads since the recorder was made. -/
  totals : EventCounts
deriving Repr

/-- Stores that keep a bookshelf. -/
class Bookshelf (ε : Type) where
  /-- The recorders under their names. -/
  watchers : ε → Names Watcher
  /-- Replaces them. -/
  withWatchers : ε → Names Watcher → ε

namespace Bookshelf

open World

variable {ρ ε : Type} [Bookshelf ε]

/-- What is under a name. -/
def watcher? (name : String) : Act ρ ε (Option Watcher) :=
  seeStore fun s => (watchers s).get? name

/-- Puts something under a name. -/
def putWatcher (name : String) (w : Watcher) : Act ρ ε Unit :=
  changeStore fun s => withWatchers s ((watchers s).put name w)

/-- Makes a recorder under a name. -/
def make (name : String) (settings : Settings) : Act ρ ε ObserverId := do
  let o ← newObserver (.recorder settings.recorder)
  putWatcher name { observer := o }
  return o

/-- The recorder under a name. One that was never made breaks on everything. -/
def recorder (name : String) : Act ρ ε ObserverId := do
  match ← watcher? name with
  | some w => return w.observer
  | none => make name (.answering .breakIn)

/-- Changes the settings of the recorder under a name. -/
def configure (name : String) (settings : Settings) : Act ρ ε Unit := do
  inform (← recorder name) fun
    | .recorder r => .recorder (settings.configure r)
    | o => o

/-- The books of the recorder under a name. -/
def books (name : String) : Act ρ ε Recorder := do
  tell (← recorder name) (Recorder.answering .breakIn) fun
    | .recorder r => (r, .recorder r)
    | o => (Recorder.answering .breakIn, o)

/-- What is new in the books of the recorder under a name. -/
def read (name : String) : Act ρ ε BookExtract := do
  let o ← recorder name
  let w := (← watcher? name).getD { observer := o }
  let r ← books name
  putWatcher name ⟨o, r.history.size, r.events.size, r.unhandled.size⟩
  return ⟨(r.history.extract w.history r.history.size).toList,
    (r.events.extract w.events r.events.size).toList,
    (r.unhandled.extract w.unhandled r.unhandled.size).toList, r.totals⟩

end Bookshelf

end Testbench
