import Mathlib.Logic.Relation
import Testbench.Child
import Testbench.Proofs.Crew.Seat

/-!
# The threads of one call

A routine is called in a filament and starts child threads there, which start others in turn.  All of
them take their steps in any order.  A thread that binds itself is counted, then put into the table,
and tells whoever started it; a thread that ends notes its outcome, is taken out of the table, and is
counted no more.  Whoever starts a thread waits until that thread is bound or has given up.  A call
whose wait the clock cannot time unwinds in the middle of it and keeps its seat.

Every step is one operation of the program on what the threads share.  What the routines do besides,
and everybody else, is left open, as long as it leaves the counts, the noted outcomes and the seats
of the filament to those whose they are.
-/

namespace Testbench.Crew

variable {ρ ε : Type}

/-- What the end of a function may stand for at its boundary, whatever the observer answers. -/
inductive Stands : Except Payload Unit → Boundary.Caught → Prop
  | returned : Stands (.ok ()) (.outcome .completed)
  | signalled (s : Signal) : Stands (.error (.signal s)) (Boundary.ofSignal s)
  | panicked (text : Option String) (d : Disposition) :
      Stands (.error (.panic text)) (Boundary.ofPanic text d)

/-- How a thread came out of its boundary. -/
structure Exit where
  /-- How its function ended. -/
  result : Except Payload Unit
  caught : Boundary.Caught
  stands : Stands result caught

/-- What a thread has to show when it leaves the filament. -/
inductive Ending
  /-- The end of a child. -/
  | child (e : Exit)
  /-- The end of the call, with its outcome; `late` if somebody was left when it gave up waiting. -/
  | call (e : Exit) (late : Bool) (o : Outcome)

/-- How far a thread has come. -/
inductive Phase
  /-- It exists. -/
  | outside
  /-- It is counted. -/
  | counted
  /-- It is counted, and the table did not take it. -/
  | turnedAway (why : FilamentError)
  /-- It will not be bound. -/
  | refused (why : FilamentError)
  /-- It is in the table and has told nobody yet. -/
  | bound
  /-- Its function runs. -/
  | runs
  /-- Its function waits for a thread that it started to be bound. -/
  | awaits (child : ThreadId)
  /-- Its function ended. -/
  | ended (result : Except Payload Unit)
  /-- It is past its boundary. -/
  | caught (e : Exit)
  /-- The call found nobody left. -/
  | joined (e : Exit)
  /-- The call gave up waiting. -/
  | overdue (e : Exit)
  /-- The call reported that it gave up. -/
  | reported (e : Exit)
  /-- The call has a wait before it that the clock cannot time, and unwinds as it is. -/
  | stranded (e : Exit)
  /-- The call has its outcome. -/
  | settled (e : Exit) (late : Bool) (o : Outcome)
  /-- The child took note of its outcome. -/
  | noted (e : Exit)
  /-- It is out of the table and still counted. -/
  | unbound (b : Binding) (e : Ending)
  /-- It left the filament. -/
  | done (e : Ending)
  /-- It was not bound, and told so or ended without a word. -/
  | gone (why : Child.SpawnError)

namespace Phase

/-- Whether the filament counts the thread, unless it is the main thread. -/
def counts : Phase → Bool
  | outside | refused _ | done _ | gone _ => false
  | counted | turnedAway _ | bound | runs | awaits _ | ended _ | caught _ | joined _ | overdue _
  | reported _ | stranded _ | settled .. | noted _ | unbound .. => true

/-- Whether the thread is in the table. -/
def sits : Phase → Bool
  | bound | runs | awaits _ | ended _ | caught _ | joined _ | overdue _ | reported _ | stranded _
  | settled .. | noted _ => true
  | outside | counted | turnedAway _ | refused _ | unbound .. | done _ | gone _ => false

/-- Whether the thread has told whoever started it what became of it. -/
def arrived : Phase → Bool
  | outside | counted | turnedAway _ | refused _ | bound => false
  | runs | awaits _ | ended _ | caught _ | joined _ | overdue _ | reported _ | stranded _
  | settled .. | noted _ | unbound .. | done _ | gone _ => true

/-- Whether the thread left, or never came. -/
def finished : Phase → Bool
  | done _ | gone _ => true
  | outside | counted | turnedAway _ | refused _ | bound | runs | awaits _ | ended _ | caught _
  | joined _ | overdue _ | reported _ | stranded _ | settled .. | noted _ | unbound .. => false

/-- Whether the call unwound from its wait. -/
def isStranded : Phase → Bool
  | stranded _ => true
  | _ => false

/-- How a child came out, once it has taken note of that. -/
def exit? : Phase → Option Exit
  | noted e | unbound _ (.child e) | done (.child e) => some e
  | _ => none

/-- What the call came to, once it is settled. -/
def verdict? : Phase → Option (Exit × Bool × Outcome)
  | settled e late o | unbound _ (.call e late o) | done (.call e late o) => some (e, late, o)
  | _ => none

/-- Whether the call is past its wait and found nobody left. -/
def joinedAll : Phase → Bool
  | joined _ | settled _ false _ | unbound _ (.call _ false _) | done (.call _ false _) => true
  | _ => false

/-- Whether the call reported that it gave up waiting. -/
def hasReported : Phase → Bool
  | reported _ | settled _ true _ | unbound _ (.call _ true _) | done (.call _ true _) => true
  | _ => false

/-- Whether only the calling thread comes that far. -/
def ofCaller : Phase → Bool
  | joined _ | overdue _ | reported _ | stranded _ | settled .. | unbound _ (.call ..)
  | done (.call ..) => true
  | _ => false

/-- What the thread has to show when it leaves, once it has that. -/
def ending? : Phase → Option Ending
  | settled e late o => some (.call e late o)
  | noted e => some (.child e)
  | _ => none

end Phase

/-- The outcome that a child takes note of, if it takes note of one. -/
def Exit.note? (e : Exit) : Option Outcome :=
  match e.caught with
  | .outcome o => some o
  | .reraise _ => none

/-- The outcome that a child has taken note of. -/
def Phase.note? (φ : Phase) : Option Outcome := φ.exit?.bind Exit.note?

/-- A thread of the call. -/
structure Worker where
  thread : ThreadId
  phase : Phase

/-- Whether a filament with this main thread counts the worker. -/
def Worker.counted (p : Worker) (main : ThreadId) : Bool := p.phase.counts && main != p.thread

/-- The world, the threads of the call in the order in which they were started, the calling thread
first, and what the call itself reported since its routine ended. -/
structure State (ρ ε : Type) where
  world : World ρ ε
  workers : List Worker
  told : List Event := []

/-- What a call reports that gives up waiting. -/
def lateNote (limit : Duration) : Event :=
  .note ("Child threads still running after " ++ limit.text ++ ", failing routine")

/-- Whatever happened, it left alone whom the filament counts, what was noted in it, and who has a
seat. -/
structure Spares (reg : RegistryId) (f : FilamentId) (w w' : World ρ ε) : Prop where
  threads : w.threads.items.size ≤ w'.threads.items.size
  filament : ∀ x, w.roster.filaments.get? f = some x →
    ∃ x', w'.roster.filaments.get? f = some x' ∧ x'.mainThread = x.mainThread ∧
      x'.running = x.running ∧ x'.childOutcome = x.childOutcome
  seats : ∀ t, w.roster.Seated reg f t → w'.roster.Seated reg f t

section

variable (reg : RegistryId) (f : FilamentId) (limit : Duration)

/-- What the worker in a place does next; the calling thread has place 0. -/
inductive Goes : Nat → Worker → World ρ ε → Phase → World ρ ε → Prop
  | counts {i t w r} (h : w.roster.prepare ⟨t, f, true⟩ = (.ok (), r)) :
      Goes i ⟨t, .outside⟩ w .counted { w with roster := r }
  | full {i t w r why} (h : w.roster.prepare ⟨t, f, true⟩ = (.error why, r)) :
      Goes i ⟨t, .outside⟩ w (.refused why) { w with roster := r }
  | sits {i t w r}
      (h : w.roster.onTable reg (.error .unknownThread) (·.bind ⟨t, f, true⟩) = (.ok (), r)) :
      Goes i ⟨t, .counted⟩ w .bound { w with roster := r }
  | conflicts {i t w r why}
      (h : w.roster.onTable reg (.error .unknownThread) (·.bind ⟨t, f, true⟩) = (.error why, r)) :
      Goes i ⟨t, .counted⟩ w (.turnedAway why) { w with roster := r }
  | givesUp {i t w why} : Goes i ⟨t, .turnedAway why⟩ w (.refused why)
      { w with roster := w.roster.release ⟨t, f, true⟩ }
  | declines {i t w why} : Goes i ⟨t, .refused why⟩ w (.gone (.filament why)) w
  | drops {i t w} (hi : i ≠ 0) : Goes i ⟨t, .outside⟩ w (.gone .lost) w
  | begins {i t w} : Goes i ⟨t, .bound⟩ w .runs w
  | ends {i t w} (result : Except Payload Unit) : Goes i ⟨t, .runs⟩ w (.ended result) w
  | catches {i t w} (e : Exit) : Goes i ⟨t, .ended e.result⟩ w (.caught e) w
  | joins {t w x e} (hlimit : limit.Timed) (hx : w.roster.filaments.get? f = some x)
      (h : x.join limit = .ok ()) : Goes 0 ⟨t, .caught e⟩ w (.joined e) w
  | givesUpWaiting {t w x e why} (hlimit : limit.Timed) (hx : w.roster.filaments.get? f = some x)
      (h : x.join limit = .error why) : Goes 0 ⟨t, .caught e⟩ w (.overdue e) w
  | strands {t w e} (hlimit : ¬ limit.Timed) : Goes 0 ⟨t, .caught e⟩ w (.stranded e) w
  | settles {t w x e} (hx : w.roster.filaments.get? f = some x) : Goes 0 ⟨t, .joined e⟩ w
      (.settled e false (e.caught.toOutcome.worst x.childOutcome)) w
  | settlesLate {t w x e} (hx : w.roster.filaments.get? f = some x) : Goes 0 ⟨t, .reported e⟩ w
      (.settled e true ((e.caught.toOutcome.worst .failed).worst x.childOutcome)) w
  | notes {i t w e o} (he : e.note? = some o) : Goes (i + 1) ⟨t, .caught e⟩ w (.noted e)
      { w with roster.filaments := w.roster.filaments.modify f (·.note o) }
  | passesOn {i t w e} (he : e.note? = none) : Goes (i + 1) ⟨t, .caught e⟩ w (.noted e) w
  | unbinds {i p w r b e} (hp : p.phase.ending? = some e)
      (h : w.roster.onTable reg none (·.unbind p.thread) = (some b, r)) :
      Goes i p w (.unbound b e) { w with roster := r }
  | unbindsNothing {i p w r e} (hp : p.phase.ending? = some e)
      (h : w.roster.onTable reg none (·.unbind p.thread) = (none, r)) :
      Goes i p w (.done e) { w with roster := r }
  | releases {i t w b e} : Goes i ⟨t, .unbound b e⟩ w (.done e)
      { w with roster := w.roster.release b }

/-- One step: of a worker, of the calling thread that reports that it gave up waiting, of a worker
that starts another or hears what became of it, or of anybody else. -/
inductive Step : State ρ ε → State ρ ε → Prop
  | goes {s i p φ w} (hi : s.workers[i]? = some p) (h : Goes reg f limit i p s.world φ w) :
      Step s { s with world := w, workers := s.workers.set i { p with phase := φ } }
  | reports {s t e x} (hi : s.workers[0]? = some ⟨t, .overdue e⟩)
      (hx : s.world.roster.filaments.get? f = some x) :
      Step s { s with
        world := (World.report x.observer ⟨x.mainThread, t⟩ (lateNote limit) s.world).2
        workers := s.workers.set 0 ⟨t, .reported e⟩
        told := s.told ++ [lateNote limit] }
  | starts {s i t u w} (hi : s.workers[i]? = some ⟨t, .runs⟩)
      (h : World.newThread s.world = (.ok u, w)) :
      Step s { s with world := w, workers := s.workers.set i ⟨t, .awaits u⟩ ++ [⟨u, .outside⟩] }
  | hears {s i t u φ} {j : Nat} (hi : s.workers[i]? = some ⟨t, .awaits u⟩)
      (hj : s.workers[j]? = some ⟨u, φ⟩) (h : φ.arrived = true) :
      Step s { s with workers := s.workers.set i ⟨t, .runs⟩ }
  | elsewhere {s w} (h : Spares reg f s.world w) : Step s { s with world := w }

/-- Any number of steps of anybody. -/
def Runs : State ρ ε → State ρ ε → Prop := Relation.ReflTransGen (Step reg f limit)

end

/-- A thread is about to call a routine in a filament that counts nobody. -/
structure Opening (f : FilamentId) (before : Outcome) (s : State ρ ε) : Prop where
  filament : ∃ x, s.world.roster.filaments.get? f = some x ∧ x.running = 0 ∧
    x.childOutcome = before ∧ x.mainThread < s.world.threads.items.size
  caller : ∃ t, s.workers = [⟨t, .outside⟩] ∧ t < s.world.threads.items.size
  told : s.told = []

/-- A child took note of an outcome. -/
def Noted (workers : List Worker) (o : Outcome) : Prop := ∃ p ∈ workers, p.phase.note? = some o

end Testbench.Crew
