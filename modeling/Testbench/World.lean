import Testbench.Driver.Device
import Testbench.Flow
import Testbench.Irql
import Testbench.Observer

/-!
# The world

The world holds everything that threads share: the roster, the observers and the device; and what
each thread has of its own: its level, and two cells by which the boundary of a routine learns the
stack of a panic. One thread runs at a time. What the routines keep among themselves is a parameter
`ε`, and so is the type `ρ` of routines.
-/

namespace Testbench

/-- What a thread has of its own. -/
structure Thread where
  level : Irql := .passive
  /-- Whether a panic leaves its stack behind. -/
  keepsPanicStack : Bool := false
  /-- The stack that the last panic left behind. -/
  panicStack : Option StackTrace := none
deriving Repr

/-- Everything there is while tests run. -/
structure World (ρ ε : Type) where
  /-- The thread that runs. -/
  current : ThreadId := 0
  threads : Pool Thread := ⟨#[{}]⟩
  /-- The stack that is found when one is captured. -/
  callStack : List String := ["routine"]
  /-- Filaments and registries. -/
  roster : Roster := {}
  observers : Pool Observer := .empty
  /-- The device of the drivers. -/
  device : Device ρ := {}
  /-- What the routines keep. -/
  store : ε

namespace World

variable {ρ ε α β : Type}

/-- A computation on the world. -/
abbrev Act (ρ ε α : Type) : Type := Flow (World ρ ε) α

/-! ### Threads -/

/-- The thread that runs. -/
def self : Act ρ ε ThreadId := Flow.see current

/-- Makes a thread, which does not run yet. -/
def newThread : Act ρ ε ThreadId := Flow.step fun w =>
  let (t, threads) := w.threads.add {}
  (t, { w with threads })

/-- Does something as another thread. -/
def asThread (t : ThreadId) (f : Act ρ ε α) : Act ρ ε α := do
  let caller ← self
  Flow.change fun w => { w with current := t }
  f.ensuring (Flow.change fun w => { w with current := caller })

/-- Looks at the running thread. -/
def seeThread (f : Thread → α) : Act ρ ε α :=
  Flow.see fun w => f ((w.threads.get? w.current).getD {})

/-- Changes the running thread. -/
def changeThread (f : Thread → Thread) : Act ρ ε Unit :=
  Flow.change fun w => { w with threads := w.threads.modify w.current f }

/-- Ends a thread: what it was given on its first reports is taken back. -/
def endThread (t : ThreadId) : Act ρ ε Unit :=
  Flow.change fun w => { w with roster := w.roster.threadEnded t }

/-! ### Levels -/

/-- The level of the running thread. -/
def level : Act ρ ε Irql := seeThread Thread.level

/-- Sets the level of the running thread. -/
def setLevel (l : Irql) : Act ρ ε Unit := changeThread fun t => { t with level := l }

/-- Asks for a higher level, and answers the one before. -/
def raiseLevel (l : Irql) : Act ρ ε Irql := do
  let previous ← level
  setLevel (.raised previous l)
  return previous

/-- Asks for a lower level. -/
def lowerLevel (l : Irql) : Act ρ ε Unit := do setLevel (.lowered (← level) l)

/-- Does something under a spin lock, at the level of spin locks. -/
def underSpinLock (f : Act ρ ε α) : Act ρ ε α := do
  let previous ← raiseLevel .synch
  f.ensuring (lowerLevel previous)

/-! ### Panics -/

/-- The stack of the running thread. -/
def captureStack : Act ρ ε StackTrace :=
  Flow.see fun w => .capture w.callStack StackTrace.maxFrames

/-- Panics. Where that is wanted, the stack is left behind for the boundary of the routine. -/
def panicking (text : Option String) : Act ρ ε α := do
  if ← seeThread Thread.keepsPanicStack then
    let stack ← captureStack
    changeThread fun t => { t with panicStack := some stack }
  Flow.unwind (.panic text)

/-! ### Roster -/

/-- Looks at the roster. -/
def seeRoster (f : Roster → α) : Act ρ ε α := Flow.see fun w => f w.roster

/-- Works on the roster. -/
def onRoster (f : Roster → α × Roster) : Act ρ ε α := Flow.step fun w =>
  let (a, roster) := f w.roster
  (a, { w with roster })

/-- Changes a filament. -/
def changeFilament (f : FilamentId) (g : Filament → Filament) : Act ρ ε Unit :=
  onRoster fun r => ((), { r with filaments := r.filaments.modify f g })

/-- Looks at a filament; `fallback` is what is seen if there is none. -/
def seeFilament (f : FilamentId) (fallback : α) (g : Filament → α) : Act ρ ε α :=
  seeRoster fun r => match r.filaments.get? f with
    | some filament => g filament
    | none => fallback

/-- What a panic says about a wait that the clock cannot time. -/
def untimedText : String := "overflow when adding duration to instant"

/-- Waits for the children of a filament. The end of the wait is reckoned first, whether or not there
is anybody to wait for, and if the clock does not go so far that panics. -/
def joinChildren (f : FilamentId) (limit : Duration) : Act ρ ε (Except FilamentError Unit) :=
  if limit.Timed then seeFilament f (.ok ()) (·.join limit) else panicking (some untimedText)

/-- Does something with a registry: at the level of spin locks if it is for a driver. -/
def withRegistry (reg : RegistryId) (f : Act ρ ε α) : Act ρ ε α := do
  let kind ← seeRoster fun r => (r.registries.get? reg).map Registry.kind
  if kind = some .driver then underSpinLock f else f

/-- Makes a filament of the running thread. -/
def newFilament (observer : ObserverId) (flags : FilamentFlags) : Act ρ ε FilamentId := do
  let t ← self
  onRoster (·.newFilament observer flags t)

/-- Binds the running thread to a filament. -/
def attach (reg : RegistryId) (f : FilamentId) : Act ρ ε (Except FilamentError Unit) := do
  let t ← self
  withRegistry reg (onRoster (·.attach reg ⟨t, f, true⟩))

/-- Unbinds the running thread. -/
def detach (reg : RegistryId) : Act ρ ε Unit := do
  let t ← self
  withRegistry reg (onRoster fun r => ((), r.detach reg t))

/-- The place of the running thread. -/
def membership (reg : RegistryId) (derive : Bool) : Act ρ ε (Except FilamentError Member) := do
  let t ← self
  withRegistry reg (onRoster (·.current reg t derive))

/-- How the running thread reports when it belongs to a filament. -/
def identityIn (f : FilamentId) : Act ρ ε Identity := do
  let t ← self
  seeFilament f (.ownMain t) (·.identity t)

/-- The stack to go with an event, if threads of the filament are to give one. -/
def stackFor (f : FilamentId) : Act ρ ε (Option StackTrace) := do
  if ← seeFilament f false (·.flags.capturesStacks) then return some (← captureStack)
  else return none

/-! ### Observers -/

/-- Makes an observer. -/
def newObserver (o : Observer) : Act ρ ε ObserverId := Flow.step fun w =>
  let (i, observers) := w.observers.add o
  (i, { w with observers })

/-- Tells an observer something; `fallback` is the answer if there is none. -/
def tell (o : ObserverId) (fallback : α) (f : Observer → α × Observer) : Act ρ ε α :=
  Flow.step fun w =>
    let (a, observers) := w.observers.update o fallback f
    (a, { w with observers })

/-- Tells an observer something that needs no answer. -/
def inform (o : ObserverId) (f : Observer → Observer) : Act ρ ε Unit :=
  tell o () fun x => ((), f x)

/-- Reports an event to an observer. -/
def report (o : ObserverId) (i : Identity) (e : Event) : Act ρ ε Disposition :=
  tell o .proceed (·.report i e)

/-- The observer of a filament. -/
def observerOf (f : FilamentId) : Act ρ ε ObserverId := seeFilament f 0 Filament.observer

/-! ### Device and store -/

/-- Looks at the device. -/
def seeDevice (f : Device ρ → α) : Act ρ ε α := Flow.see fun w => f w.device

/-- Works on the device, under its spin lock. -/
def onDevice (f : Device ρ → α × Device ρ) : Act ρ ε α :=
  underSpinLock (Flow.step fun w =>
    let (a, device) := f w.device
    (a, { w with device }))

/-- Changes the device, under its spin lock. -/
def changeDevice (f : Device ρ → Device ρ) : Act ρ ε Unit := onDevice fun d => ((), f d)

/-- Looks at what the routines keep. -/
def seeStore (f : ε → α) : Act ρ ε α := Flow.see fun w => f w.store

/-- Works on what the routines keep. -/
def onStore (f : ε → α × ε) : Act ρ ε α := Flow.step fun w =>
  let (a, store) := f w.store
  (a, { w with store })

/-- Changes what the routines keep. -/
def changeStore (f : ε → ε) : Act ρ ε Unit := onStore fun s => ((), f s)

end World

end Testbench
