import Testbench.Proofs.Remote.Bound
import Testbench.Proofs.Roster
import Testbench.Proofs.Waits
import Testbench.Run.InWorld

/-!
# Calls under a boundary

What a routine comes to under its boundary, as soon as it is known how it ends and what it leaves
alone.  `Within` is what a routine leaves alone while it runs, `Spares` is what the whole call of it
leaves alone; the call adds its filament to the roster, and its binding is gone in the end.
-/

namespace Testbench

open World

namespace Script

/-- What the boundary catches of an ending. -/
def caughtOf : Option Payload → Except Payload Unit
  | none => .ok ()
  | some payload => .error payload

lemma attempt_resultOf {ρ ε : Type} {routine : Act ρ ε Unit} {w w' : World ρ ε}
    {e : Option Payload} (h : routine w = (resultOf e, w')) :
    routine.attempt w = (.ok (caughtOf e), w') := by
  cases e with
  | none => exact Flow.attempt_ok h
  | some payload => exact Flow.attempt_unwound h

end Script

namespace Boundary

/-- What a boundary makes of the end of a routine when the observer answers by the kind of an event. -/
def caughtFor (d : Dispositions) : Except Payload Unit → Caught
  | .ok () => .outcome .completed
  | .error (.signal s) => ofSignal s
  | .error (.panic text) => ofPanic text d.uncaughtException

/-- What a boundary reports at the end of a routine: a panic, with the stack that it left behind. -/
def lastWords (left : Option StackTrace) : Except Payload Unit → List Event
  | .error (.panic text) => [⟨.uncaughtException (panicMessage text), left⟩]
  | .ok () | .error (.signal _) => []

end Boundary

/-- The observer after a routine ended: of a panic it hears from the boundary. -/
def Observer.concludes (i : Identity) (x : Observer) : Option Payload → Observer
  | some (.panic text) => ((x.unhandledException (panicMessage text)).report i
      ⟨.uncaughtException (panicMessage text), none⟩).2
  | _ => x

lemma Observer.Steady.unhandledException {d : Dispositions} {x : Observer} (hx : x.Steady d)
    (message : String) : (x.unhandledException message).Steady d := by
  cases x with
  | recorder r => exact hx
  | channel c => exact hx
  | console c => exact hx.elim

namespace World

variable {ρ ε : Type} {w w' w'' : World ρ ε} {reg : RegistryId} {f : FilamentId}
  {o : ObserverId}

/-! ### What is left alone -/

/-- What a routine in a filament leaves alone that reports to an observer: all but the value of the
filament, the books of the observer and what routines keep. -/
structure Within (f : FilamentId) (o : ObserverId) (w w' : World ρ ε) : Prop where
  current_eq : w'.current = w.current
  threads_eq : w'.threads = w.threads
  registries_eq : w'.roster.registries = w.roster.registries
  device_eq : w'.device = w.device
  own : ∀ y, w.roster.filaments.get? f = some y →
    ∃ v, w'.roster.filaments.get? f = some (y.setValue .ordinary v)
  filament : ∀ g y, g ≠ f → w.roster.filaments.get? g = some y →
    w'.roster.filaments.get? g = some y
  observer : ∀ i y, i ≠ o → w.observers.get? i = some y → w'.observers.get? i = some y

/-- What the call of a routine leaves alone that reports to an observer. -/
structure Spares (o : ObserverId) (w w' : World ρ ε) : Prop where
  current_eq : w'.current = w.current
  threads_eq : w'.threads = w.threads.modify w.current fun t => { t with panicStack := none }
  registries_eq : w'.roster.registries = w.roster.registries
  device_eq : w'.device = w.device
  filament : ∀ g y, w.roster.filaments.get? g = some y → w'.roster.filaments.get? g = some y
  observer : ∀ i y, i ≠ o → w.observers.get? i = some y → w'.observers.get? i = some y

lemma Within.trans (h : Within f o w w') (h' : Within f o w' w'') : Within f o w w'' where
  current_eq := h'.current_eq.trans h.current_eq
  threads_eq := h'.threads_eq.trans h.threads_eq
  registries_eq := h'.registries_eq.trans h.registries_eq
  device_eq := h'.device_eq.trans h.device_eq
  own y hy := by
    obtain ⟨v, hv⟩ := h.own y hy
    obtain ⟨v', hv'⟩ := h'.own _ hv
    exact ⟨v', hv'⟩
  filament g y hg hy := h'.filament g y hg (h.filament g y hg hy)
  observer i y hi hy := h'.observer i y hi (h.observer i y hi hy)

/-- A routine that leaves the rest alone leaves its thread bound. -/
lemma Within.bound (h : Within f o w w') (hw : w.Bound reg f o) : w'.Bound reg f o where
  thread := by
    rw [h.threads_eq, h.current_eq]
    exact hw.thread
  binding := by
    rw [Roster.table, h.registries_eq, ← Roster.table, h.current_eq]
    exact hw.binding
  filament := by
    obtain ⟨y, hy, hfacts⟩ := hw.filament
    obtain ⟨v, hv⟩ := h.own y hy
    refine ⟨_, hv, ?_⟩
    rw [h.current_eq]
    exact hfacts

lemma Spares.passive (h : Spares o w w') (hw : w.Passive) : w'.Passive := by
  obtain ⟨t, ht, hlevel⟩ := hw
  refine ⟨{ t with panicStack := none }, ?_, hlevel⟩
  rw [h.threads_eq, h.current_eq]
  exact Pool.get?_modify_self _ ht

lemma Spares.free (h : Spares o w w') (hw : w.roster.Free reg w.current) :
    w'.roster.Free reg w'.current := by
  obtain ⟨g, hg, hfree⟩ := hw
  refine ⟨g, ?_, ?_⟩
  · rw [h.registries_eq]
    exact hg
  · rw [h.current_eq]
    exact hfree

lemma within_touched (w : World ρ ε) (f : FilamentId) (o : ObserverId) (v : UInt64) (x : Observer)
    (st : ε) : Within f o w (w.touched f o v x st) where
  current_eq := rfl
  threads_eq := rfl
  registries_eq := rfl
  device_eq := rfl
  own _ hy := ⟨v, Pool.get?_modify_self _ hy⟩
  filament _ _ hg hy := (Pool.get?_modify_of_ne hg.symm _).trans hy
  observer _ _ hi hy := (Pool.get?_modify_of_ne hi.symm _).trans hy

/-! ### The guard -/

/-- The world with the cells of the running thread set for a routine. -/
def armed (w : World ρ ε) : World ρ ε :=
  { w with threads := w.threads.modify w.current fun t =>
      { t with panicStack := none, keepsPanicStack := false } }

/-- The world with the cells of the running thread set back. -/
def disarmed (w : World ρ ε) (before : Bool) : World ρ ε :=
  { w with threads := w.threads.modify w.current fun t =>
      { t with panicStack := none, keepsPanicStack := before } }

lemma enter_eq {t : Thread} {y : Filament} (ht : w.threads.get? w.current = some t)
    (hy : w.roster.filaments.get? f = some y) (hflags : y.flags.capturesStacks = false) :
    Boundary.enter f w = (.ok t.keepsPanicStack, w.armed) := by
  have hcells : seeThread Thread.keepsPanicStack w = (.ok t.keepsPanicStack, w) := by
    rw [seeThread, Flow.see_apply, ht]
    rfl
  rw [Boundary.enter, Flow.bind_ok (seeFilament_eq hy _ _), Flow.bind_ok hcells, hflags]
  rfl

section

variable {d : Dispositions} {x : Observer}

/-- A panic goes to the observer, with the stack that it left behind, and the observer decides what it
stands for. -/
lemma reportPanic_eq {y : Filament} (hy : w.roster.filaments.get? f = some y)
    (hflags : y.flags.capturesStacks = false) (hx : w.observers.get? y.observer = some x)
    (hd : x.Steady d) (i : Identity) (text : Option String) (left : Option StackTrace) :
    Boundary.reportPanic f i text left w =
      (.ok d.uncaughtException, w.observing y.observer
        ((x.unhandledException (panicMessage text)).report i
          ⟨.uncaughtException (panicMessage text), left⟩).2) := by
  let x₁ := x.unhandledException (panicMessage text)
  let e : Event := ⟨.uncaughtException (panicMessage text), left⟩
  have hinform : inform y.observer (·.unhandledException (panicMessage text)) w
      = (.ok (), w.observing y.observer x₁) := tell_eq hx () _
  have hx₁ := observing_observer hx x₁
  have hreport : report y.observer i e (w.observing y.observer x₁)
      = (.ok d.uncaughtException, w.observing y.observer (x₁.report i e).2) := by
    rw [report, tell_eq hx₁, (hd.unhandledException _).report_fst i e, observing_observing]
    rfl
  have htold : (do
      let o ← observerOf f
      inform o (·.unhandledException (panicMessage text))
      report o i e : Act ρ ε Disposition) w
      = (.ok d.uncaughtException, w.observing y.observer (x₁.report i e).2) := by
    rw [Flow.bind_ok (observerOf_eq hy), Flow.bind_ok hinform, hreport]
  cases left with
  | none =>
    rw [Boundary.reportPanic, Flow.bind_ok (stackFor_eq hy hflags)]
    exact htold
  | some stack => exact htold

/-- What the boundary makes of an ending: no unwind of a report script goes past it. -/
lemma leave_eq (hw : w.Bound reg f o) (hx : w.observers.get? o = some x) (hd : x.Steady d)
    (hanswer : d.uncaughtException = .proceed ∨ d.uncaughtException = .abort)
    {e : Option Payload} (he : e ≠ some (.signal .breakpoint)) (before : Bool) :
    Boundary.leave f (.ownMain w.current) before (Script.caughtOf e) w =
      (.ok (.outcome (Script.outcomeOfEnding d e)),
        (w.disarmed before).observing o (x.concludes (.ownMain w.current) e)) := by
  obtain ⟨t, ht, -, -, hleft⟩ := hw.thread
  obtain ⟨y, hy, rfl, -, hflags, -⟩ := hw.filament
  have hstack : seeThread Thread.panicStack w = (.ok none, w) := by
    rw [seeThread, Flow.see_apply, ht, ← hleft]
    rfl
  have hcells : changeThread (fun t => { t with panicStack := none, keepsPanicStack := before }) w
      = (.ok (), w.disarmed before) := rfl
  have hsame : w.disarmed before = (w.disarmed before).observing y.observer x :=
    (observing_self (w := w.disarmed before) hx).symm
  rw [Boundary.leave, Flow.bind_ok hstack, Flow.bind_ok hcells]
  rcases e with - | s | text
  · exact congrArg (Prod.mk _) hsame
  · -- a signal is all there is to say, unless it asks for a debugger
    cases s with
    | breakpoint => exact absurd rfl he
    | _ => exact congrArg (Prod.mk _) hsame
  · -- a panic is reported, and the answer says what it stands for
    have hpanic := reportPanic_eq (w := w.disarmed before) hy hflags hx hd (.ownMain w.current) text
      none
    have hofPanic : Boundary.ofPanic text d.uncaughtException
        = .outcome (Script.outcomeOfEnding d (some (.panic text))) := by
      rw [Script.outcomeOfEnding]
      rcases hanswer with h | h <;> rw [h] <;> rfl
    refine (Flow.bind_ok hpanic).trans ?_
    rw [hofPanic]
    rfl

/-- A routine under its boundary, by how it ends. -/
lemma guard_eq {t : Thread} {y : Filament} (ht : w.threads.get? w.current = some t)
    (hy : w.roster.filaments.get? f = some y) (hflags : y.flags.capturesStacks = false)
    {routine : Act ρ ε Unit} {e : Option Payload} (he : e ≠ some (.signal .breakpoint))
    (hroutine : routine w.armed = (Script.resultOf e, w')) (hcurrent : w'.current = w.current)
    (hw' : w'.Bound reg f o) (hx : w'.observers.get? o = some x) (hd : x.Steady d)
    (hanswer : d.uncaughtException = .proceed ∨ d.uncaughtException = .abort) :
    Boundary.guard f (.ownMain w.current) routine w =
      (.ok (.outcome (Script.outcomeOfEnding d e)),
        (w'.disarmed t.keepsPanicStack).observing o (x.concludes (.ownMain w.current) e)) := by
  rw [Boundary.guard, Flow.bind_ok (enter_eq ht hy hflags),
    Flow.bind_ok (Script.attempt_resultOf hroutine), ← hcurrent]
  exact leave_eq hw' hx hd hanswer he t.keepsPanicStack

/-- There is nobody to wait for. -/
lemma joinChildren_of_running_zero {y : Filament} (hy : w.roster.filaments.get? f = some y)
    (hrunning : y.running = 0) {limit : Duration} (hlimit : limit.Timed) :
    joinChildren f limit w = (.ok (.ok ()), w) := by
  rw [joinChildren_eq hlimit hy, Filament.join, if_pos hrunning]

lemma settle_eq {y : Filament} (hy : w.roster.filaments.get? f = some y) (hrunning : y.running = 0)
    (hchild : y.childOutcome = .completed) (i : Identity) {limit : Duration} (hlimit : limit.Timed)
    (out : Outcome) : Boundary.settle f i limit out w = (.ok out, w) := by
  have hjoin := joinChildren_of_running_zero hy hrunning hlimit
  have hworst : out.worst .completed = out := by cases out <;> rfl
  have hchild' : seeFilament f .completed Filament.childOutcome w = (.ok .completed, w) := by
    rw [seeFilament_eq hy, hchild]
  rw [Boundary.settle, Flow.bind_ok hjoin]
  simp only [pure_bind]
  rw [Flow.bind_ok hchild', hworst]
  rfl

end

/-! ### Threads that take a seat -/

/-- A filament of the running thread that nothing was done with. -/
def freshFilament (w : World ρ ε) (o : ObserverId) (flags : FilamentFlags) (v : UInt64) :
    Filament :=
  { observer := o, mainThread := w.current, flags, ordinary := v }

/-- The world with one more filament. -/
def making (w : World ρ ε) (y : Filament) : World ρ ε :=
  { w with roster := { w.roster with filaments := (w.roster.filaments.add y).2 } }

/-- The world with one more filament, to which the running thread is bound. -/
def seated (w : World ρ ε) (reg : RegistryId) (y : Filament) : World ρ ε :=
  { w with roster := { w.roster with
      filaments := (w.roster.filaments.add y).2
      registries := w.roster.binding reg ⟨w.current, w.nextFilament, true⟩ } }

section

variable {y : Filament} {flags : FilamentFlags} {v : UInt64}

lemma seated_filament (w : World ρ ε) (reg : RegistryId) (y : Filament) :
    (w.seated reg y).roster.filaments.get? w.nextFilament = some y := Pool.get?_add_self _ _

lemma newFilament_eq (w : World ρ ε) (o : ObserverId) (flags : FilamentFlags) :
    newFilament o flags w = (.ok w.nextFilament, w.making (w.freshFilament o flags 0)) := rfl

/-- A filament that was just made is given a value. -/
lemma setValue_making (w : World ρ ε) (o : ObserverId) (flags : FilamentFlags) (v : UInt64) :
    changeFilament w.nextFilament (·.setValue .ordinary v) (w.making (w.freshFilament o flags 0))
      = (.ok (), w.making (w.freshFilament o flags v)) := by
  have hadd := Pool.modify_add_self w.roster.filaments (w.freshFilament o flags 0)
    (·.setValue .ordinary v)
  exact congrArg (fun p : Pool Filament => ((.ok () : Except Stop Unit),
    { w with roster := { w.roster with filaments := p } })) hadd

lemma attach_eq (hfree : w.roster.Free reg w.current) (hmain : y.mainThread = w.current) :
    attach reg w.nextFilament (w.making y) = (.ok (.ok ()), w.seated reg y) := by
  have hself : self (w.making y) = (.ok w.current, w.making y) := rfl
  have hmain' : (w.making y).roster.mainThread? w.nextFilament = some w.current := by
    have hy : (w.making y).roster.filaments.get? w.nextFilament = some y := Pool.get?_add_self _ _
    rw [Roster.mainThread?, hy, Option.map_some, hmain]
  have hfree' : (w.making y).roster.Free reg w.current := hfree
  rw [attach, Flow.bind_ok hself, withRegistry_eq, Roster.attach_eq hfree' hmain']
  rfl

/-- A thread that took a seat is bound. -/
lemma seated_bound (hw : w.Passive) (hfree : w.roster.Free reg w.current)
    (hflags : flags.capturesStacks = false) :
    (w.seated reg (w.freshFilament o flags v)).armed.Bound reg w.nextFilament o where
  thread := by
    obtain ⟨t, ht, hlevel⟩ := hw
    exact ⟨_, Pool.get?_modify_self _ ht, hlevel, rfl, rfl⟩
  binding := Roster.lookup?_binding hfree rfl
  filament := ⟨_, seated_filament .., rfl, rfl, hflags, rfl, rfl⟩

section

variable {t : Thread} (ht : w.threads.get? w.current = some t)
  (h : Within w.nextFilament o (w.seated reg (w.freshFilament o flags v)).armed w')
include ht h

/-- The cells of a thread are as before the call when its routine is over. -/
lemma threads_of_within (z : Observer) :
    ((w'.disarmed t.keepsPanicStack).observing o z).threads
      = w.threads.modify w.current fun t => { t with panicStack := none } := by
  have hthreads : w'.threads = w.threads.modify w.current _ := h.threads_eq
  have hcurrent : w'.current = w.current := h.current_eq
  simp only [observing, disarmed, hthreads, hcurrent, Pool.modify_modify]
  exact Pool.modify_congr_of_some ht rfl

lemma passive_of_within (hw : w.Passive) (z : Observer) :
    ((w'.disarmed t.keepsPanicStack).observing o z).Passive := by
  obtain ⟨t', ht', hlevel⟩ := hw
  have hcurrent : ((w'.disarmed t.keepsPanicStack).observing o z).current = w.current := h.current_eq
  refine ⟨{ t' with panicStack := none }, ?_, hlevel⟩
  rw [threads_of_within ht h z, hcurrent]
  exact Pool.get?_modify_self _ ht'

/-- A thread gives its seat back when its routine is over.  What the routine left alone is as before
the call then. -/
lemma detach_eq (hfree : w.roster.Free reg w.current) {x : Observer}
    (hx : w'.observers.get? o = some x) (z : Observer) :
    ∃ w₂, detach reg ((w'.disarmed t.keepsPanicStack).observing o z) = (.ok (), w₂) ∧
      Spares o w w₂ ∧ w₂.observers.get? o = some z := by
  let w₁ := (w'.disarmed t.keepsPanicStack).observing o z
  have hcurrent : w₁.current = w.current := h.current_eq
  obtain ⟨v', hv'⟩ := h.own _ (seated_filament w reg (w.freshFilament o flags v))
  have hmain : w₁.roster.mainThread? w.nextFilament = some w.current := by
    have hw₁ : w₁.roster.filaments.get? w.nextFilament = _ := hv'
    rw [Roster.mainThread?, hw₁]
    rfl
  have hself : self w₁ = (.ok w.current, w₁) := by rw [← hcurrent]; rfl
  have hdetach : w₁.roster.detach reg w.current
      = { w₁.roster with registries := w.roster.registries } :=
    Roster.detach_eq hfree h.registries_eq hmain
  refine ⟨{ w₁ with roster := { w₁.roster with registries := w.roster.registries } }, ?_, ?_, ?_⟩
  · rw [detach, Flow.bind_ok hself, withRegistry_eq, hdetach]
  · exact {
      current_eq := hcurrent
      threads_eq := threads_of_within ht h z
      registries_eq := rfl
      device_eq := h.device_eq
      filament := fun g y hg =>
        h.filament g y (Pool.ne_add_of_some hg y) (Pool.get?_add_of_some hg _)
      observer := fun i y hi hy =>
        (Pool.get?_modify_of_ne hi.symm _).trans (h.observer i y hi hy) }
  · exact Pool.get?_modify_self _ hx

end

/-- A routine that is called in a filament of its own comes out as it ends. -/
lemma callRoutine_eq {exec : ρ → Act ρ ε Unit} {j : Job ρ} {routine : ρ} {d : Dispositions}
    {x : Observer} {e : Option Payload} (hw : w.Passive)
    (hfree : w.roster.Free j.registry w.current) (hflags : j.filamentFlags.capturesStacks = false)
    (hrun : exec routine (w.seated j.registry (w.freshFilament o j.filamentFlags 0)).armed
      = (Script.resultOf e, w'))
    (hwithin : Within w.nextFilament o
      (w.seated j.registry (w.freshFilament o j.filamentFlags 0)).armed w')
    (he : e ≠ some (.signal .breakpoint)) (hx : w'.observers.get? o = some x) (hd : x.Steady d)
    (hanswer : d.uncaughtException = .proceed ∨ d.uncaughtException = .abort)
    (hlimit : j.run.options.joinLimit.Timed) :
    ∃ w₂, j.callRoutine exec o routine w = (.ok (.ok (Script.outcomeOfEnding d e)), w₂) ∧
      Spares o w w₂ ∧ w₂.observers.get? o = some (x.concludes (.ownMain w.current) e) := by
  obtain ⟨t, ht, -⟩ := id hw
  have hbound := hwithin.bound (seated_bound hw hfree hflags)
  obtain ⟨y, hy, -, -, -, hrunning, hchild⟩ := hbound.filament
  have hseat := seated_filament w j.registry (w.freshFilament o j.filamentFlags 0)
  have hguard := guard_eq (w := w.seated j.registry _) ht hseat hflags he hrun hwithin.current_eq
    hbound hx hd hanswer
  obtain ⟨w₂, hdetach, hspares, hx₂⟩ :=
    detach_eq ht hwithin hfree hx (x.concludes (.ownMain w.current) e)
  refine ⟨w₂, ?_, hspares, hx₂⟩
  rw [Job.callRoutine, Flow.bind_ok (newFilament_eq w o _), Boundary.call,
    Flow.bind_ok (attach_eq hfree rfl)]
  refine (Flow.bind_ok (identityIn_eq hseat)).trans ((Flow.bind_ok hguard).trans ?_)
  have hsettle := settle_eq (w := (w'.disarmed t.keepsPanicStack).observing o
    (x.concludes (.ownMain w.current) e)) hy hrunning hchild (.ownMain w.current)
    hlimit (Script.outcomeOfEnding d e)
  exact (Flow.bind_ok hsettle).trans (Flow.bind_ok hdetach)

end

end World

namespace Script

/-- A report script leaves the rest alone. -/
lemma exec_within {w : Scene} {f : FilamentId} {o : ObserverId} {p : Path} {d : Dispositions}
    {x : Observer} (script : ReportScript) (hp : p.Offers) (depth : Nat)
    (hw : w.Bound p.registry f o) (hx : w.observers.get? o = some x) (hd : x.Steady d) :
    ∃ w', exec (depth + 1) (script.along p) w = (resultOf (endingOf d script.steps), w') ∧
      Within f o w w' ∧
      w'.observers.get? o = some (x.hears (.ownMain w.current) (eventsOf d script.steps)) := by
  obtain ⟨v, st, hrun⟩ := exec_along script hp depth hw hx hd
  exact ⟨_, hrun, within_touched .., touched_observer hx ..⟩

end Script

end Testbench
