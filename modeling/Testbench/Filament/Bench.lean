import Testbench.Filament.Roster

/-!
# A bench for tables of bound threads

Bindings are made, put into a table, taken out again and undone; a binding that was taken out need
not be undone at once, but may be kept. The bench does each of these on its own, with filaments that
were made beforehand and one table, and so shows how bindings and counts of children go together.
-/

namespace Testbench

/-- Some filaments, a table, and bindings that were taken out and not undone yet. -/
structure Bench where
  /-- The filaments, and the table in the registry. -/
  roster : Roster
  registry : RegistryId
  /-- The bindings that are kept, last first. -/
  kept : List Binding := []

namespace Bench

/-- Something done on the bench. -/
inductive Step
  /-- Makes a binding and puts it into the table. -/
  | bind (b : Binding)
  /-- Looks a thread up. -/
  | lookup (thread : ThreadId)
  /-- Asks whether a thread is bound to a filament. -/
  | isBound (thread : ThreadId) (filament : FilamentId)
  /-- Takes the binding of a thread out and undoes it. -/
  | unbind (thread : ThreadId)
  /-- Takes the binding of a thread out and keeps it. -/
  | unbindKeeping (thread : ThreadId)
  /-- Undoes the bindings that are kept. -/
  | dropKept
  /-- Takes the binding of a thread out and undoes it, if it is to a filament. -/
  | unbindIf (thread : ThreadId) (filament : FilamentId)
  /-- Takes all bindings to a filament out and undoes them. -/
  | unbindFilament (filament : FilamentId)
deriving DecidableEq, Repr

/-- What came of a step. -/
inductive Answer
  /-- The binding is in the table. -/
  | bound
  /-- The binding was not made. -/
  | refused (why : FilamentError)
  /-- The binding was made, but the table did not take it. -/
  | rejected (why : FilamentError)
  /-- The thread's place, if it has one. -/
  | place (m : Option Member)
  /-- A truth value. -/
  | truth (b : Bool)
  | number (n : Nat)
deriving DecidableEq, Repr

/-- A bench with a filament for every main thread in a list. -/
def make (mainThreads : List ThreadId) : Bench :=
  let roster := mainThreads.foldl (fun r t => (r.newFilament 0 {} t).2) ({} : Roster)
  let (registry, roster) := roster.newRegistry .program
  { roster, registry }

/-- The table. -/
def table (b : Bench) : ThreadTable := b.roster.table b.registry

/-- The number of children of each filament. -/
def running (b : Bench) : List Nat := b.roster.filaments.items.toList.map Filament.running

/-- Does something to the table and answers about it. -/
def onTable {β : Type} (b : Bench) (fallback : β) (f : ThreadTable → β × ThreadTable) :
    β × Bench :=
  let (answer, roster) := b.roster.onTable b.registry fallback f
  (answer, { b with roster })

/-- Undoes bindings. -/
def releaseAll (b : Bench) (gone : List Binding) : Bench :=
  { b with roster := b.roster.releaseAll gone }

/-- Makes a binding and puts it into the table; if the table does not take it, it is undone. -/
def bind (b : Bench) (x : Binding) : Answer × Bench :=
  match b.roster.prepare x with
  | (.error why, roster) => (.refused why, { b with roster })
  | (.ok (), roster) =>
    let unbound : Except FilamentError Unit := .error .unknownThread
    match ({ b with roster }).onTable unbound (·.bind x) with
    | (.ok (), b) => (.bound, b)
    | (.error why, b) => (.rejected why, b.releaseAll [x])

/-- Does one thing. -/
def step (b : Bench) : Step → Answer × Bench
  | .bind x => b.bind x
  | .lookup thread => (.place ((b.table.lookup? thread).map b.roster.memberOf), b)
  | .isBound thread filament => (.truth (b.table.isBoundTo thread filament), b)
  | .unbind thread =>
    let (gone, b) := b.onTable none (·.unbind thread)
    (.truth gone.isSome, b.releaseAll gone.toList)
  | .unbindKeeping thread =>
    let (gone, b) := b.onTable none (·.unbind thread)
    (.truth gone.isSome, { b with kept := gone.toList ++ b.kept })
  | .dropKept => (.number b.kept.length, { b.releaseAll b.kept with kept := [] })
  | .unbindIf thread filament =>
    let (gone, b) := b.onTable none (·.unbindIf thread filament)
    (.truth gone.isSome, b.releaseAll gone.toList)
  | .unbindFilament filament =>
    let (gone, b) := b.onTable [] (·.unbindFilament filament)
    (.number gone.length, b.releaseAll gone)

end Bench

end Testbench
