import Testbench.Filament.Table
import Testbench.Pool

/-!
# The roster

The roster holds all filaments and the registries that bind threads to them. A registry for programs
may have a default filament: a thread that nobody bound is adopted by it on its first report, counts
as its child from then on, and is let go when the thread ends. A registry for drivers adopts nobody.

A binding is made before it is put into a table and undone after it left one: making it counts a
child of the filament, unless the thread is the main thread, and undoing it counts one less.
-/

namespace Testbench

/-- The name of a registry. -/
abbrev RegistryId := Nat

/-- The sorts of registries. -/
inductive Registry.Kind
  /-- For programs: a report from a thread that nobody bound ends the thread. -/
  | program
  /-- For drivers: a report from a thread that nobody bound is ignored. -/
  | driver
deriving DecidableEq, Repr

/-- A table of bound threads. -/
structure Registry where
  /-- Whom it is for. -/
  kind : Registry.Kind
  /-- The bound threads. -/
  table : ThreadTable := {}
  /-- The default filament, if one is installed. -/
  default? : Option FilamentId := none
deriving Repr

/-- A binding that a thread was given on its first report. -/
structure Adoption where
  thread : ThreadId
  /-- The registry that holds the binding. -/
  registry : RegistryId
  /-- The default filament at the time. -/
  filament : FilamentId
deriving DecidableEq, Repr

/-- All filaments and registries. -/
structure Roster where
  filaments : Pool Filament := .empty
  registries : Pool Registry := .empty
  /-- The adoptions of threads that have not ended, oldest first. -/
  adoptions : List Adoption := []

/-- A thread's place in a filament. -/
structure Member where
  filament : FilamentId
  /-- How the thread reports. -/
  identity : Identity
  /-- Whether a boundary waits for the thread to unwind; a thread that was adopted has none. -/
  guarded : Bool
deriving DecidableEq, Repr

namespace Roster

/-- Makes a filament whose main thread is `thread`. -/
def newFilament (r : Roster) (observer : ObserverId) (flags : FilamentFlags) (thread : ThreadId) :
    FilamentId × Roster :=
  let (f, filaments) := r.filaments.add { observer, mainThread := thread, flags }
  (f, { r with filaments })

/-- Makes a registry. -/
def newRegistry (r : Roster) (kind : Registry.Kind) : RegistryId × Roster :=
  let (i, registries) := r.registries.add { kind }
  (i, { r with registries })

/-- The table of a registry. -/
def table (r : Roster) (reg : RegistryId) : ThreadTable :=
  match r.registries.get? reg with
  | some g => g.table
  | none => {}

/-- Changes the table of a registry and answers about it. -/
def onTable {β : Type} (r : Roster) (reg : RegistryId) (fallback : β)
    (f : ThreadTable → β × ThreadTable) : β × Roster :=
  let (b, registries) := r.registries.update reg fallback fun g =>
    let (b, table) := f g.table
    (b, { g with table })
  (b, { r with registries })

/-- The default filament of a registry. -/
def default? (r : Roster) (reg : RegistryId) : Option FilamentId :=
  (r.registries.get? reg).bind Registry.default?

/-- The main thread of a filament. -/
def mainThread? (r : Roster) (f : FilamentId) : Option ThreadId :=
  (r.filaments.get? f).map Filament.mainThread

/-- Makes a binding of a thread to a filament. -/
def prepare (r : Roster) (b : Binding) : Except FilamentError Unit × Roster :=
  if r.mainThread? b.filament = some b.thread then (.ok (), r)
  else
    let (result, filaments) := r.filaments.update b.filament (.error .unknownThread) Filament.addChild
    (result, { r with filaments })

/-- Undoes a binding. -/
def release (r : Roster) (b : Binding) : Roster :=
  if r.mainThread? b.filament = some b.thread then r
  else { r with filaments := r.filaments.modify b.filament Filament.removeChild }

/-- Undoes several bindings. -/
def releaseAll (r : Roster) (bs : List Binding) : Roster := bs.foldl release r

/-- Makes a binding and puts it into the table of a registry. -/
def attach (r : Roster) (reg : RegistryId) (b : Binding) : Except FilamentError Unit × Roster :=
  match r.prepare b with
  | (.error e, r) => (.error e, r)
  | (.ok (), r) =>
    match r.onTable reg (.error .unknownThread) (·.bind b) with
    | (.ok (), r) => (.ok (), r)
    | (.error e, r) => (.error e, r.release b)

/-- Takes the binding of a thread out of the table of a registry and undoes it. -/
def detach (r : Roster) (reg : RegistryId) (thread : ThreadId) : Roster :=
  match r.onTable reg none (·.unbind thread) with
  | (none, r) => r
  | (some b, r) => r.release b

/-- Does the same if the thread is bound to a filament. -/
def detachIf (r : Roster) (reg : RegistryId) (thread : ThreadId) (f : FilamentId) : Roster :=
  match r.onTable reg none (·.unbindIf thread f) with
  | (none, r) => r
  | (some b, r) => r.release b

/-- What a binding makes of its thread. -/
def memberOf (r : Roster) (b : Binding) : Member :=
  ⟨b.filament, ⟨(r.mainThread? b.filament).getD b.thread, b.thread⟩, b.guarded⟩

/-- The place of a thread in the filament that a registry binds it to. -/
def member? (r : Roster) (reg : RegistryId) (thread : ThreadId) : Option Member :=
  ((r.table reg).lookup? thread).map r.memberOf

/-- Whether the binding that came of an adoption is gone. -/
def isStale (r : Roster) (a : Adoption) : Bool :=
  !(r.table a.registry).isBoundTo a.thread a.filament

/-- Binds a thread to the default filament of a registry. A thread that is just ending could not be
let go any more, so that it would be refused; but threads end in one turn here, and do not ask for a
place in the middle of it. -/
def adopt (r : Roster) (reg : RegistryId) (thread : ThreadId) :
    Except FilamentError Member × Roster :=
  match r.default? reg with
  | none => (.error .unknownThread, r)
  | some f =>
    let b : Binding := ⟨thread, f, false⟩
    match r.attach reg b with
    | (.error e, r) => (.error e, r)
    | (.ok (), r) =>
      let kept := r.adoptions.filter fun a => a.thread ≠ thread || !r.isStale a
      let r := { r with adoptions := kept ++ [⟨thread, reg, f⟩] }
      (.ok (r.memberOf b), r)

/-- The place of a thread in a registry. With `derive`, a thread that has none is adopted if the
registry does that. -/
def current (r : Roster) (reg : RegistryId) (thread : ThreadId) (derive : Bool) :
    Except FilamentError Member × Roster :=
  match r.member? reg thread with
  | some m => (.ok m, r)
  | none => if derive then r.adopt reg thread else (.error .unknownThread, r)

/-- Installs a default filament whose main thread is `thread`, unless there is one. -/
def installDefault (r : Roster) (reg : RegistryId) (observer : ObserverId) (flags : FilamentFlags)
    (thread : ThreadId) : Except FilamentError FilamentId × Roster :=
  match r.default? reg with
  | some _ => (.error .conflict, r)
  | none =>
    let (f, r) := r.newFilament observer (flags.withDefault true) thread
    (.ok f, { r with registries := r.registries.modify reg fun g => { g with default? := some f } })

/-- Revokes a default filament: it is no longer the default, and nobody stays bound to it. -/
def revokeDefault (r : Roster) (reg : RegistryId) (f : FilamentId) : Roster :=
  let r := { r with
    registries := r.registries.modify reg fun g =>
      if g.default? = some f then { g with default? := none } else g }
  let (gone, r) := r.onTable reg [] (·.unbindFilament f)
  r.releaseAll gone

/-- Lets go of an ended thread: what it was given on its first reports is taken back. -/
def threadEnded (r : Roster) (thread : ThreadId) : Roster :=
  let mine := r.adoptions.filter (·.thread = thread)
  let r := mine.foldl (fun r a => r.detachIf a.registry a.thread a.filament) r
  { r with adoptions := r.adoptions.filter (·.thread ≠ thread) }

end Roster

end Testbench
