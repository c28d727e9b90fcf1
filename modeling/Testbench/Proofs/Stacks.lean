import Testbench.Proofs.Stacks.Program

/-!
# Stacks of panics

A panic leaves its stack in a cell of its thread if the switch of the thread says so, and the
boundary of a routine takes it out again.  Cell and switch are shared by all the boundaries that the
thread is inside of, and a panic that is caught within a routine leaves its stack behind as well.
All the same, what a boundary reports carries a stack just if its own filament asks for stacks, and
the thread leaves the boundary with the switch that it entered with and with nothing in the cell.

What carries the proof is that a stack is in the cell only while the switch is on, and that the
switch is on only while the innermost boundary is that of a filament that asks for stacks.
-/

namespace Testbench

open World

variable {ρ ε α β : Type} {w w' w'' : World ρ ε}

/-- An observer after a routine ended under a boundary: of a panic it is told, and hears as an
event. -/
def Observer.concluding (i : Identity) (stack : Option StackTrace) (x : Observer) :
    Except Payload Unit → Observer
  | .error (.panic text) => ((x.unhandledException (panicMessage text)).report i
      ⟨.uncaughtException (panicMessage text), stack⟩).2
  | .ok () | .error (.signal _) => x

namespace World

/-! ### The cells -/

/-- There is a stack in the cell of the running thread only while its switch is on. -/
def Tidy (w : World ρ ε) : Prop :=
  w.running.panicStack.isSome = true → w.running.keepsPanicStack = true

lemma running_modify (w : World ρ ε) (g : Thread → Thread) :
    (World.running { w with threads := w.threads.modify w.current g })
      = if w.current < w.threads.items.size then g w.running else {} := by
  simp only [running, Pool.get?_modify_same]
  split
  · rename_i hlt
    rw [Pool.get?, Array.getElem?_eq_getElem hlt]
    rfl
  · rename_i hlt
    rw [Pool.get?, Array.getElem?_eq_none (Nat.not_lt.mp hlt)]
    rfl

/-- A thread that there is not has nothing in its cells. -/
lemma running_of_unknown (h : ¬ w.current < w.threads.items.size) : w.running = {} := by
  rw [running, Pool.get?, Array.getElem?_eq_none (Nat.not_lt.mp h)]
  rfl

/-- What a program leaves behind of what it found.  Of the cells it is the switch that stays. -/
structure Neat (w w' : World ρ ε) : Prop where
  current : w'.current = w.current
  threads : w.threads.items.size ≤ w'.threads.items.size
  switch : w'.running.keepsPanicStack = w.running.keepsPanicStack
  tidy : w.Tidy → w'.Tidy
  face : ∀ f, w.roster.KeepsFace f w'.roster

namespace Neat

lemma of_still (h : Still w w') : Neat w w' where
  current := h.current
  threads := h.threads
  switch := h.switch
  tidy hw := by
    rw [Tidy, h.stack, h.switch]
    exact hw
  face := h.face

lemma refl (w : World ρ ε) : Neat w w := of_still (.refl w)

lemma trans (h : Neat w w') (h' : Neat w' w'') : Neat w w'' where
  current := h'.current.trans h.current
  threads := Nat.le_trans h.threads h'.threads
  switch := h'.switch.trans h.switch
  tidy hw := h'.tidy (h.tidy hw)
  face f := (h.face f).trans (h'.face f)

/-- A panic puts its stack into the cell only if the switch is on. -/
lemma panicked (w : World ρ ε) : Neat w w.panicked := by
  rw [World.panicked]
  split
  · rename_i hswitch
    have hcells := running_modify w fun t =>
      { t with panicStack := some (.capture w.callStack StackTrace.maxFrames) }
    have hknown : w.current < w.threads.items.size := by
      by_contra hunknown
      rw [running_of_unknown hunknown] at hswitch
      cases hswitch
    rw [if_pos hknown] at hcells
    refine ⟨rfl, Nat.le_of_eq Array.size_modify.symm, by rw [hcells], fun _ _ => ?_,
      fun _ => .refl _⟩
    rw [hcells]
    exact hswitch
  · exact refl w

end Neat

end World

/-! ### The boundary -/

namespace Boundary

/-- Whether the threads of a filament are to give stacks. -/
def captures (w : World ρ ε) (f : FilamentId) : Bool :=
  match w.roster.filaments.get? f with
  | some y => y.flags.capturesStacks
  | none => false

/-- The observer of a filament. -/
def reportsTo (w : World ρ ε) (f : FilamentId) : ObserverId :=
  match w.roster.filaments.get? f with
  | some y => y.observer
  | none => 0

/-- The stack that goes with the report of a panic: the one that it left, or else the present one if
the filament asks for stacks. -/
def stackIn (w : World ρ ε) (f : FilamentId) : Option StackTrace :=
  w.running.panicStack <|>
    if captures w f then some (.capture w.callStack StackTrace.maxFrames) else none

lemma enter_apply (f : FilamentId) (w : World ρ ε) :
    enter f w = (.ok w.running.keepsPanicStack, w.disarmed (captures w f)) := rfl

/-- The thread begins a routine with an empty cell, and with the switch on only if the filament asks
for stacks. -/
lemma entered (f : FilamentId) (w : World ρ ε) :
    (w.disarmed (captures w f)).running.panicStack = none ∧
      ((w.disarmed (captures w f)).running.keepsPanicStack = true → captures w f = true) := by
  have hcells := running_modify w fun t =>
    { t with panicStack := none, keepsPanicStack := captures w f }
  rw [disarmed, hcells]
  split
  · exact ⟨rfl, id⟩
  · exact ⟨rfl, fun h => absurd h Bool.false_ne_true⟩

lemma stackFor_apply (f : FilamentId) (w : World ρ ε) :
    stackFor f w = (.ok (if captures w f then
      some (.capture w.callStack StackTrace.maxFrames) else none), w) := by
  have hcaptures : seeFilament f false (·.flags.capturesStacks) w = (.ok (captures w f), w) := rfl
  rw [stackFor, Flow.bind_ok hcaptures]
  split <;> rfl

/-- The observer of the filament is told of a panic, and hears of it with the stack. -/
lemma reportPanic_apply (f : FilamentId) (i : Identity) (text : Option String)
    (left : Option StackTrace) (w : World ρ ε) :
    ∃ d, reportPanic f i text left w = (.ok d, { w with
      observers := w.observers.modify (reportsTo w f) fun x => x.concluding i
        (left <|> if captures w f then some (.capture w.callStack StackTrace.maxFrames) else none)
        (.error (.panic text)) }) := by
  have hobserver : observerOf f w = (.ok (reportsTo w f), w) := rfl
  -- with whatever stack, the observer is told and hears
  have htold (stack : Option StackTrace) : ∃ d, (do
      let o ← World.observerOf f
      inform o (·.unhandledException (panicMessage text))
      World.report o i ⟨.uncaughtException (panicMessage text), stack⟩ : Act ρ ε Disposition) w
        = (.ok d, { w with
          observers := w.observers.modify (reportsTo w f) fun x =>
            x.concluding i stack (.error (.panic text)) }) := by
    let told : World ρ ε := { w with
      observers := w.observers.modify (reportsTo w f)
        (·.unhandledException (panicMessage text)) }
    obtain ⟨u, hinform⟩ := tell_modify (reportsTo w f) ()
      (fun x => ((), x.unhandledException (panicMessage text))) w
    obtain ⟨d, hreport⟩ := tell_modify (reportsTo w f) Disposition.proceed
      (fun x => x.report i ⟨.uncaughtException (panicMessage text), stack⟩) told
    rw [Pool.modify_modify] at hreport
    exact ⟨d, (Flow.bind_ok hobserver).trans ((Flow.bind_ok hinform).trans hreport)⟩
  cases left with
  | some stack => exact htold (some stack)
  | none =>
    obtain ⟨d, hd⟩ := htold (if captures w f then
      some (.capture w.callStack StackTrace.maxFrames) else none)
    exact ⟨d, (Flow.bind_ok (stackFor_apply f w)).trans hd⟩

/-- How a thread leaves a boundary: its cells are set back, and the observer is told of a panic. -/
lemma leave_apply (f : FilamentId) (i : Identity) (before : Bool) (result : Except Payload Unit)
    (w : World ρ ε) :
    ∃ caught, leave f i before result w = (.ok caught, { w.disarmed before with
      observers := w.observers.modify (reportsTo w f) fun x =>
        x.concluding i (stackIn w f) result }) := by
  have hleft : seeThread Thread.panicStack w = (.ok w.running.panicStack, w) := rfl
  have hcells : changeThread (fun t => { t with panicStack := none, keepsPanicStack := before }) w
      = (.ok (), w.disarmed before) := rfl
  have hsame : w.observers.modify (reportsTo w f) (fun x => x) = w.observers :=
    Pool.modify_eq_self fun _ _ => rfl
  rw [leave, Flow.bind_ok hleft, Flow.bind_ok hcells]
  rcases result with (s | text) | u
  · exact ⟨ofSignal s, Prod.ext rfl (congrArg (fun os => { w.disarmed before with
      observers := os }) hsame.symm)⟩
  · obtain ⟨d, hreport⟩ := reportPanic_apply f i text w.running.panicStack (w.disarmed before)
    exact ⟨ofPanic text d, Flow.bind_ok hreport⟩
  · exact ⟨.outcome .completed, Prod.ext rfl (congrArg (fun os => { w.disarmed before with
      observers := os }) hsame.symm)⟩

/-- The cells are set back to what they were when the thread came in, if it left the routine with as
many threads around as there were. -/
lemma left_behind (before : World ρ ε) (w : World ρ ε) (hcurrent : w.current = before.current)
    (hthreads : before.threads.items.size ≤ w.threads.items.size) :
    (w.disarmed before.running.keepsPanicStack).running.keepsPanicStack
        = before.running.keepsPanicStack ∧
      (w.disarmed before.running.keepsPanicStack).running.panicStack = none := by
  have hcells := running_modify w fun t =>
    { t with panicStack := none, keepsPanicStack := before.running.keepsPanicStack }
  rw [disarmed, hcells]
  split
  · exact ⟨rfl, rfl⟩
  · rename_i hunknown
    have hbefore : ¬ before.current < before.threads.items.size := fun hlt =>
      hunknown (hcurrent ▸ Nat.lt_of_lt_of_le hlt hthreads)
    rw [running_of_unknown hbefore]
    exact ⟨rfl, rfl⟩

/-- What a routine leaves behind is what the boundary around it leaves behind, but for the cells. -/
lemma neat_over {f : FilamentId} {ended : World ρ ε} (h : Neat (w.disarmed (captures w f)) ended)
    (observers : Pool Observer) :
    Neat w { ended.disarmed w.running.keepsPanicStack with observers } := by
  have hthreads : w.threads.items.size ≤ ended.threads.items.size :=
    Nat.le_trans (Nat.le_of_eq Array.size_modify.symm) h.threads
  obtain ⟨hswitch, hstack⟩ := left_behind w ended h.current hthreads
  refine ⟨h.current, Nat.le_trans hthreads (Nat.le_of_eq Array.size_modify.symm), hswitch,
    fun _ hsome => ?_, h.face⟩
  have hnone : (World.running { ended.disarmed w.running.keepsPanicStack with
    observers }).panicStack = none := hstack
  rw [hnone] at hsome
  cases hsome

/-- A routine that comes to an end under a boundary comes out of it. -/
lemma guard_cases {f : FilamentId} {i : Identity} {routine : Act ρ ε Unit}
    {r : Except Payload Caught} (h : (guard f i routine).attempt w = (.ok r, w')) :
    ∃ result ended caught, routine.attempt (w.disarmed (captures w f)) = (.ok result, ended) ∧
      leave f i w.running.keepsPanicStack result ended = (.ok caught, w') ∧ r = .ok caught := by
  rw [guard, Flow.attempt_bind_ok (Flow.attempt_ok (enter_apply f w))] at h
  rcases Flow.attempt_bind_cases h with ⟨result, ended, hroutine, hleave⟩ | ⟨payload, -, hroutine⟩
  · obtain ⟨caught, hcaught⟩ := leave_apply f i w.running.keepsPanicStack result ended
    have hcame := (Flow.attempt_ok hcaught).symm.trans hleave
    cases hcame
    exact ⟨result, ended, caught, Flow.of_attempt_ok hroutine, hcaught, rfl⟩
  · exact absurd (Flow.of_attempt_unwound hroutine) Flow.not_attempt_unwound

end Boundary

open Boundary

/-! ### Visits -/

/-- One passage of a thread through a boundary. -/
structure Visit (ρ ε : Type) where
  filament : FilamentId
  /-- Who reports. -/
  identity : Identity
  /-- The world when the thread comes in. -/
  before : World ρ ε
  /-- How the routine ended. -/
  result : Except Payload Unit
  /-- The world when the routine has ended. -/
  ended : World ρ ε
  /-- The world when the thread is outside again. -/
  outside : World ρ ε

namespace Visit

/-- What the boundary reports carries a stack just if its filament asks for stacks, and the thread
leaves with the switch that it came in with and with nothing in the cell. -/
structure Faithful (v : Visit ρ ε) : Prop where
  switch : v.outside.running.keepsPanicStack = v.before.running.keepsPanicStack
  cleared : v.outside.running.panicStack = none
  /-- Of a panic the observer is told, and hears with a stack; otherwise no observer hears
  anything. -/
  observers (y : Filament) (hy : v.before.roster.filaments.get? v.filament = some y) :
    v.outside.observers = v.ended.observers.modify y.observer fun x =>
      x.concluding v.identity (stackIn v.ended v.filament) v.result
  stack_isSome (y : Filament) (hy : v.before.roster.filaments.get? v.filament = some y) :
    (stackIn v.ended v.filament).isSome = y.flags.capturesStacks

end Visit

namespace Program

/-- The passages through boundaries while a program runs, in the order in which the thread comes
out.  Where it never comes out there is none. -/
def visits {α : Type} : Program ρ ε α → World ρ ε → List (Visit ρ ε)
  | returns _, _ | panics _, _ | unwinds _, _ => []
  | does m _ next, w =>
    match m w with
    | (.ok b, w') => (next b).visits w'
    | (.error _, _) => []
  | catches body next, w =>
    body.visits w ++ match body.run.attempt w with
      | (.ok result, w') => (next result).visits w'
      | (.error _, _) => []
  | guards f i body next, w =>
    body.visits (enter f w).2 ++ match body.run.attempt (enter f w).2 with
      | (.ok result, ended) =>
        match leave f i w.running.keepsPanicStack result ended with
        | (.ok caught, outside) => ⟨f, i, w, result, ended, outside⟩ :: (next caught).visits outside
        | (.error _, _) => []
      | (.error _, _) => []

/-- However it ends, a program leaves behind what it found, but for a stack in the cell. -/
lemma run_neat (p : Program ρ ε α) : ∀ {w result w'}, p.run.attempt w = (.ok result, w') →
    Neat w w' := by
  induction p with
  | returns a =>
    intro w result w' h
    cases h
    exact .refl w
  | does m calm next ih =>
    intro w result w' h
    rcases Flow.attempt_bind_cases h with ⟨b, w₁, hfirst, hsecond⟩ | ⟨payload, -, hfirst⟩
    · exact (Neat.of_still (calm w _ _ hfirst)).trans (ih b hsecond)
    · exact .of_still (calm w _ _ hfirst)
  | panics text =>
    intro w result w' h
    rw [run, Flow.attempt_unwound (panicking_apply text w)] at h
    cases h
    exact .panicked w
  | unwinds payload =>
    intro w result w' h
    cases h
    exact .refl w
  | catches body next ihbody ihnext =>
    intro w result w' h
    rcases Flow.attempt_bind_cases h with ⟨caught, w₁, hfirst, hsecond⟩ | ⟨payload, -, hfirst⟩
    · exact (ihbody (Flow.of_attempt_ok hfirst)).trans (ihnext caught hsecond)
    · exact absurd (Flow.of_attempt_unwound hfirst) Flow.not_attempt_unwound
  | guards f i body next ihbody ihnext =>
    intro w result w' h
    have hguard {r : Except Payload Caught} {w₁ : World ρ ε}
        (h : (guard f i body.run).attempt w = (.ok r, w₁)) : Neat w w₁ := by
      obtain ⟨result, ended, caught, hbody, hleave, -⟩ := guard_cases h
      obtain ⟨caught', hleft⟩ := leave_apply f i w.running.keepsPanicStack result ended
      obtain rfl := (congrArg Prod.snd (hleft.symm.trans hleave) :)
      exact neat_over (ihbody hbody) _
    rcases Flow.attempt_bind_cases h with ⟨caught, w₁, hfirst, hsecond⟩ | ⟨payload, -, hfirst⟩
    · exact (hguard hfirst).trans (ihnext caught hsecond)
    · exact hguard hfirst

/-- A passage is as it should be if the routine within is a program. -/
lemma faithful_passage {f : FilamentId} {i : Identity} {body : Program ρ ε Unit}
    {result : Except Payload Unit} {caught : Caught} {ended outside : World ρ ε}
    (hbody : body.run.attempt (w.disarmed (captures w f)) = (.ok result, ended))
    (hleave : leave f i w.running.keepsPanicStack result ended = (.ok caught, outside)) :
    Visit.Faithful ⟨f, i, w, result, ended, outside⟩ := by
  have hneat := body.run_neat hbody
  obtain ⟨hempty, hswitch⟩ := entered f w
  obtain ⟨caught', hleft⟩ := leave_apply f i w.running.keepsPanicStack result ended
  obtain rfl := (congrArg Prod.snd (hleft.symm.trans hleave) :)
  have hthreads : w.threads.items.size ≤ ended.threads.items.size :=
    Nat.le_trans (Nat.le_of_eq Array.size_modify.symm) hneat.threads
  obtain ⟨hback, hcleared⟩ := left_behind w ended hneat.current hthreads
  refine ⟨hback, hcleared, fun y hy => ?_, fun y hy => ?_⟩
  · obtain ⟨y', hy', hobserver, -⟩ := hneat.face f y hy
    have hreports : reportsTo ended f = y.observer := by rw [reportsTo, hy', ← hobserver]
    rw [← hreports]
  · obtain ⟨y', hy', -, hflags⟩ := hneat.face f y hy
    have hbefore : captures w f = y.flags.capturesStacks := by rw [captures, hy]
    have hended : captures ended f = y.flags.capturesStacks := by rw [captures, hy', ← hflags]
    -- a stack in the cell means that the switch was on
    have hleft : ended.running.panicStack.isSome = true → y.flags.capturesStacks = true := by
      intro hsome
      have htidy : ended.Tidy := hneat.tidy fun h => by
        rw [hempty] at h
        cases h
      exact hbefore ▸ hswitch (hneat.switch ▸ htidy hsome)
    show (stackIn ended f).isSome = _
    rw [stackIn, hended]
    cases hstack : ended.running.panicStack with
    | some stack =>
      rw [hstack] at hleft
      exact (hleft rfl).symm
    | none => cases y.flags.capturesStacks <;> rfl

/-- However boundaries are nested in a program, and whatever is thrown and caught in it: what a
boundary reports of a panic carries a stack just if the filament of that boundary asks for stacks,
and the thread leaves it with the switch that it came in with and with no stack left behind. -/
theorem visits_faithful (p : Program ρ ε α) : ∀ w, ∀ v ∈ p.visits w, v.Faithful := by
  induction p with
  | returns | panics | unwinds => exact fun w v hv => nomatch hv
  | does m calm next ih =>
    intro w v hv
    rw [visits] at hv
    split at hv
    · exact ih _ _ v hv
    · cases hv
  | catches body next ihbody ihnext =>
    intro w v hv
    rw [visits] at hv
    rcases List.mem_append.mp hv with hv | hv
    · exact ihbody w v hv
    · split at hv
      · exact ihnext _ _ v hv
      · cases hv
  | guards f i body next ihbody ihnext =>
    intro w v hv
    rw [visits] at hv
    rcases List.mem_append.mp hv with hv | hv
    · exact ihbody _ v hv
    · split at hv
      · rename_i result ended hended
        split at hv
        · rename_i caught outside hleft
          rcases List.mem_cons.mp hv with rfl | hv
          · exact faithful_passage hended hleft
          · exact ihnext caught outside v hv
        · cases hv
      · cases hv

/-- A panic that is caught and forgotten, then one that goes past a boundary of a filament without
stacks to that of a filament with stacks. -/
def goesPast : Program Unit Unit Unit :=
  .guards 0 (.ownMain 0)
    (.catches (β := Unit) (.panics (some "forgotten")) fun _ =>
      .guards 1 (.ownMain 0) (.panics (some "out of range")) fun caught =>
        match caught.payload? with
        | some payload => .unwinds payload
        | none => .returns ())
    fun _ => .returns ()

/-- A world with these filaments and an observer that wants to break on panics. -/
def breakingWorld : World Unit Unit where
  roster := {
    filaments := ⟨#[{ observer := 0, mainThread := 0, flags := .withCapture {} true },
      { observer := 0, mainThread := 0, flags := {} }]⟩ }
  observers := ⟨#[.recorder (.answering .breakIn)]⟩
  store := ()

/-- Both boundaries report the same panic, the outer one with a stack. -/
theorem visits_faithful_goesPast :
    (∀ v ∈ goesPast.visits breakingWorld, v.Faithful) ∧
    (goesPast.visits breakingWorld).map (fun v => (v.filament, v.result)) =
      [(1, .error (.panic (some "out of range"))), (0, .error (.panic (some "out of range")))] ∧
    ∃ r, (goesPast.run breakingWorld).2.observers.get? 0 = some (.recorder r) ∧
      r.events.toList.map (fun e => (e.subject, e.stack.isSome))
        = [("out of range", false), ("out of range", true)] :=
  ⟨visits_faithful goesPast breakingWorld, by decide +kernel, _, rfl, rfl⟩

end Program

end Testbench
