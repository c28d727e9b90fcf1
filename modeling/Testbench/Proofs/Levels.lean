import Testbench.Proofs.Levels.Sink
import Testbench.Proofs.Response
import Testbench.Proofs.Tables

/-!
# Levels that are given back

A call into a driver gives its thread back at the level at which the thread came, whatever the
routine did and however it ended.  The word about a routine that left another level is in the
channel of the call then, once, behind what the routine had reported and behind its last words,
unless there was no room for it.  And a routine that a sink sends unwinding was brought down to
passive level.

The body of a routine minds who runs and who listens, and no more; the level after it is anything.
The call asks for the level when the thread has its seat, and sets it when the boundary is passed;
nothing that the call does besides changes the level.
-/

namespace Testbench

namespace Channel

/-- A channel took an event: its record is in the buffer, or it is known that one was dropped. -/
def Took (ch : Channel) (e : Event) (ch' : Channel) : Prop :=
  (ch'.buffer.bytes = ch.buffer.bytes ++ Record.encode e ∧ ch'.buffer.count = ch.buffer.count + 1) ∨
    (ch'.buffer.bytes = ch.buffer.bytes ∧ ch'.buffer.truncated = true)

/-- If a routine left another level than that at which it was called, its channel took one more
event about that; otherwise the channel stayed as it was. -/
def Restored (ch : Channel) (entry exit : Irql) (ch' : Channel) : Prop :=
  if exit = entry then ch' = ch
  else ch.Took (.note ("Routine returned at " ++ exit.text ++ ", restoring " ++ entry.text)) ch'

lemma took_hearing (ch : Channel) (e : Event) : ch.Took e (ch.hearing [e]) := by
  have hqueue : (ch.hearing [e]).buffer = (ch.buffer.queue e).2 := rfl
  rw [Took, hqueue, EventBuffer.queue]
  split
  · exact .inr ⟨rfl, rfl⟩
  · exact .inl ⟨Array.toList_appendList, rfl⟩

lemma restored_hearing (ch : Channel) (entry exit : Irql) :
    ch.Restored entry exit (ch.hearing (Crew.levelNote entry exit)) := by
  rw [Restored, Crew.levelNote]
  by_cases h : exit = entry
  · rw [if_pos h, if_neg (not_not.mpr h)]
    rfl
  · rw [if_neg h, if_pos h]
    exact took_hearing ..

end Channel

/-- Whoever is bound could be bound. -/
lemma Roster.free_of_attach {r r' : Roster} {reg : RegistryId} {b : Binding}
    (h : r.attach reg b = (.ok (), r')) : r.Free reg b.thread := by
  have hprepare := r.prepare_registries b
  rcases r.attach_cases reg b with
    ⟨why, r₁, hr₁, heq⟩ | ⟨r₁, hr₁, ⟨r₂, hbind, heq⟩ | ⟨why, r₂, hbind, heq⟩⟩ <;> rw [heq] at h
  · cases h
  · rw [hr₁] at hprepare
    cases hg : r₁.registries.get? reg with
    | none =>
      rw [onTable_of_none hg] at hbind
      cases hbind
    | some g =>
      rw [onTable_eq hg] at hbind
      have hok : (g.table.bind b).1 = .ok () := congrArg Prod.fst hbind
      refine ⟨g, hprepare ▸ hg, ?_⟩
      rcases g.table.bind_cases b with ⟨hfree, hroom, -⟩ | ⟨-, heq⟩ | ⟨-, -, heq⟩
      · refine ⟨List.findIdx?_eq_none_iff.mpr fun c hc => ?_, hroom⟩
        exact decide_eq_false fun hthread => hfree (List.mem_map.mpr ⟨c, hc, hthread⟩)
      all_goals
        rw [heq] at hok
        cases hok
  · cases h

namespace World

open Crew

variable {ρ ε α : Type} {w w' : World ρ ε} {reg : RegistryId} {channel : ObserverId} {ch : Channel}
  {value : UInt64} {limit : Duration} {exec : Routines ρ ε} {routine : ρ} {t : Thread}

/-! ### The level of a call -/

lemma restoreLevel_level (ht : w.threads.get? w.current = some t) (channel : ObserverId)
    (entry : Irql) : (Driver.restoreLevel channel entry w).2.running.level = entry := by
  have hlevel : level w = (.ok w.running.level, w) := rfl
  rw [Driver.restoreLevel, Flow.bind_ok hlevel]
  split
  · exact running_level_setLevel ht entry
  · rename_i hsame
    exact not_ne_iff.mp hsame

/-- The registries of drivers are theirs when the routine of a call begins. -/
lemma begun_driver (hfree : w.roster.Free reg w.current) (channel : ObserverId) (value : UInt64)
    {reg' : RegistryId} (h : w.roster.ForDriver reg') :
    (begun w reg channel value).world.roster.ForDriver reg' := by
  let y := w.freshFilament channel {} value
  obtain ⟨result, seat, hattach, hminds⟩ := Mindful.attach reg w.nextFilament (w.making y)
  rw [Flow.attempt_ok (attach_eq hfree rfl)] at hattach
  obtain ⟨-, rfl⟩ := Prod.mk.inj hattach
  have hmade : (w.making y).roster.ForDriver reg' := h.congr rfl
  exact hminds.roster.driver reg' hmade

/-- What others do when they have a turn leaves the level of a thread alone. -/
def Aside (exec : Routines ρ ε) (t : ThreadId) : Prop :=
  ∀ w : World ρ ε, w.current = t → (exec.others.attempt w).2.running.level = w.running.level

/-- What is known of a routine that was called, and of the channel of the call. -/
structure Ran (exec : Routines ρ ε) (w : World ρ ε) (reg : RegistryId) (limit : Duration)
    (routine : ρ) (channel : ObserverId) (value : UInt64) (ch : Channel) (w' : World ρ ε)
    (result : Except Payload Unit) (w₁ w₂ w₃ : World ρ ε) (es es₂ es₃ late : List Event)
    (ch₁ : Channel) : Prop where
  /-- Drivers had their registries when it began. -/
  drivers : ∀ reg', w.roster.ForDriver reg' →
    (begun w reg channel value).world.roster.ForDriver reg'
  /-- The routine ran on the seat that its thread took, and so it ended. -/
  body : (exec routine).attempt (begun w reg channel value).world = (.ok result, w₁)
  /-- This the channel had heard by then. -/
  heard : w₁.observers.get? channel = some (.channel (ch.hearing es))
  /-- When the routine was out of its boundary others had a turn. -/
  turn : exec.turn (Boundary.leave w.nextFilament (.ownMain w.current) w.running.keepsPanicStack
    result w₁).2 = (.ok (), w₂)
  /-- The channel had heard the last words of the routine, and others, -/
  heard₂ : w₂.observers.get? channel = some (.channel
    (ch.hearing (es ++ Boundary.lastWords w₁.running.panicStack result ++ es₂)))
  /-- and then it heard of the level of the routine if that was another one. -/
  restored : (ch.hearing (es ++ Boundary.lastWords w₁.running.panicStack result ++ es₂)).Restored
    w.running.level w₁.running.level ch₁
  /-- Others had another turn when the level was restored. -/
  wait : exec.turn (Driver.restoreLevel channel w.running.level w₂).2 = (.ok (), w₃)
  heard₃ : w₃.observers.get? channel = some (.channel (ch₁.hearing es₃))
  /-- If the wait for the threads of the routine was in vain, that is reported. -/
  waited : late = [] ∨ late = [lateNote limit]
  /-- More is not said. -/
  told : w'.observers.get? channel = some (.channel (ch₁.hearing (es₃ ++ late)))

/-- A routine that minds what was there before comes out of its boundary at its level, and the channel
has heard its last words. -/
lemma guard_channel {seat w₁ : World ρ ε} {f : FilamentId} {y : Filament} {m : Act ρ ε Unit}
    {result : Except Payload Unit} (ht : seat.threads.get? seat.current = some t)
    (hy : seat.roster.filaments.get? f = some y) (hobserver : y.observer = channel)
    (hflags : y.flags.capturesStacks = false) (hm : m.attempt seat.armed = (.ok result, w₁))
    (hminds : Minds seat.armed w₁) (hch : w₁.observers.get? channel = some (.channel ch))
    (i : Identity) : ∃ left, Boundary.leave f i seat.running.keepsPanicStack result w₁
        = (.ok (Boundary.caughtFor ch.dispositions result), left) ∧
      Boundary.guard f i m seat = (.ok (Boundary.caughtFor ch.dispositions result), left) ∧
      Minds seat.armed left ∧ left.running.level = w₁.running.level ∧
      left.observers.get? channel
        = some (.channel (ch.hearing (Boundary.lastWords w₁.running.panicStack result))) := by
  obtain ⟨x, hx, hobserver', hflags'⟩ := hminds.roster.face f y hy
  have hkeeps : seat.running.keepsPanicStack = t.keepsPanicStack := by
    rw [running, ht]
    rfl
  have henter := enter_eq ht hy hflags
  rw [← hkeeps] at henter
  have hleave := leave_channel hx (hobserver'.trans hobserver) (hflags' ▸ hflags) hch i
    seat.running.keepsPanicStack result
  obtain ⟨_, left, hleft, hmindsLeft⟩ :=
    Mindful.leave f i seat.running.keepsPanicStack result w₁
  rw [Flow.attempt_ok hleave] at hleft
  obtain ⟨-, rfl⟩ := Prod.mk.inj hleft
  refine ⟨_, hleave, ?_, hminds.trans hmindsLeft, running_level_disarmed w₁ _,
    observing_observer (w := w₁.disarmed seat.running.keepsPanicStack) hch _⟩
  rw [Boundary.guard, Flow.bind_ok henter, Flow.bind_ok hm]
  exact hleave

/-- The wait for the threads of a call leaves the level of its thread alone, and is reported if it is
in vain.  Then the call is over; or the wait cannot be timed, and unwinds. -/
lemma attempt_settle_channel {f : FilamentId} {x : Filament}
    (hx : w.roster.filaments.get? f = some x) (hobserver : x.observer = channel)
    (hch : w.observers.get? channel = some (.channel ch)) (i : Identity) (limit : Duration) (e : Exit)
    (reg : RegistryId) :
    ∃ outcome late w', (closing reg f i limit e).attempt w = (.ok outcome, w') ∧
      (late = [] ∨ late = [lateNote limit]) ∧ w'.running.level = w.running.level ∧
      w'.observers.get? channel = some (.channel (ch.hearing late)) := by
  subst hobserver
  have hover {o : Outcome} {w₁ : World ρ ε}
      (h : Boundary.settle f i limit e.caught.toOutcome w = (.ok o, w₁)) :
      ∃ outcome, (closing reg f i limit e).attempt w
        = (.ok outcome, { w₁ with roster := w₁.roster.detach reg w₁.current }) := by
    obtain ⟨v, hvalue⟩ : ∃ v, seeFilament f 0 (·.value .ordinary) w₁ = (.ok v, w₁) := ⟨_, rfl⟩
    have hdetach := withRegistry_eq w₁ reg (fun r => ((), r.detach reg w₁.current))
    exact ⟨_, attempt_closing h hvalue hdetach⟩
  by_cases hlimit : limit.Timed
  · cases hjoin : x.join limit with
    | ok u =>
      obtain ⟨outcome, h⟩ := hover (settle_of_join hlimit hx hjoin i e.caught.toOutcome)
      exact ⟨outcome, [], _, h, .inl rfl, rfl, hch⟩
    | error why =>
      obtain ⟨outcome, h⟩ := hover (settle_of_not_join hlimit hx hjoin i e.caught.toOutcome)
      refine ⟨outcome, [lateNote limit], _, h, .inr rfl, rfl, ?_⟩
      rw [World.report, tell_eq hch]
      exact observing_observer hch _
  · refine ⟨.error untimed, [], w.panicked, attempt_closing_untimed hlimit .., .inl rfl,
      running_level_panicked w, ?_⟩
    rw [panicked_observers]
    exact hch

/-- The level is restored and the channel told, and nothing else is done. -/
lemma restoring_channel (ht : ∃ t, w.threads.get? w.current = some t)
    (hch : w.observers.get? channel = some (.channel ch)) (entry : Irql) :
    ∃ w', Driver.restoreLevel channel entry w = (.ok (), w') ∧
      w'.observers.get? channel
        = some (.channel (ch.hearing (levelNote entry w.running.level))) ∧
      w'.running.level = entry ∧ Minds w w' := by
  obtain ⟨t, ht⟩ := ht
  obtain ⟨w', hrestore, -, hobservers⟩ := restoreLevel_channel hch entry
  obtain ⟨_, w'', hrestore', hminds⟩ := Mindful.restoreLevel channel entry w
  rw [Flow.attempt_ok hrestore] at hrestore'
  obtain ⟨-, rfl⟩ := Prod.mk.inj hrestore'
  have hlevel := restoreLevel_level ht channel entry
  rw [hrestore] at hlevel
  refine ⟨w', hrestore, ?_, hlevel, hminds⟩
  rw [hobservers]
  exact observing_observer hch _

/-- A turn of others comes out, and they mind what was there before. -/
lemma exists_turn (hothers : Mindful exec.others) (w : World ρ ε) :
    ∃ ended w', exec.others.attempt w = (.ok ended, w') ∧ exec.turn w = (.ok (), w') ∧
      Minds w w' := by
  obtain ⟨ended, w', hended, hminds⟩ := hothers w
  exact ⟨ended, w', hended, turn_eq hended, hminds⟩

/-- Whoever has a seat for a call comes back to the level from before, and what was said is in the
channel. -/
lemma attempt_callProtected_level (hbody : Mindful (exec routine)) (hothers : Mindful exec.others)
    (ht : w.threads.get? w.current = some t) (hch : w.observers.get? channel = some (.channel ch))
    (hfree : w.roster.Free reg w.current)
    (haside : Aside exec w.current) (limit : Duration) (value : UInt64) :
    ∃ outcome w' result w₁ w₂ w₃ es es₂ es₃ late ch₁,
      (Driver.callProtected exec reg limit routine channel value).attempt w = (.ok outcome, w') ∧
      w'.running.level = w.running.level ∧
      Ran exec w reg limit routine channel value ch w' result w₁ w₂ w₃ es es₂ es₃ late ch₁ := by
  let seat := w.seated reg (w.freshFilament channel {} value)
  have htSeat : seat.threads.get? seat.current = some t := ht
  obtain ⟨result, w₁, hresult, hminds⟩ := hbody seat.armed
  obtain ⟨es, hes⟩ := hminds.channel channel ch hch
  -- the boundary, with the last words
  obtain ⟨left, hleave, hguard, hmindsLeft, hexit, hchLeft⟩ := guard_channel htSeat
    (begun_filament w reg channel value) rfl (begun_flags w channel value) hresult hminds hes
    (.ownMain w.current)
  rw [← Channel.hearing_append] at hchLeft
  -- others, and the level
  obtain ⟨_, w₂, hended, hturn, hminds₂⟩ := exists_turn hothers left
  obtain ⟨es₂, hch₂⟩ := hminds₂.channel channel _ hchLeft
  rw [← Channel.hearing_append] at hch₂
  have haside₂ := haside left hmindsLeft.current
  rw [hended, hexit] at haside₂
  obtain ⟨restored, hrestore, hchRestored, hlevel, hmindsRestored⟩ := restoring_channel
    ((hmindsLeft.trans hminds₂).thread (Pool.get?_modify_self _ ht)) hch₂ w.running.level
  rw [haside₂] at hchRestored
  -- others again, and the wait
  have hminds₃ := hmindsLeft.trans (hminds₂.trans hmindsRestored)
  obtain ⟨_, w₃, hended₃, hwait, hmindsWait⟩ := exists_turn hothers restored
  obtain ⟨es₃, hch₃⟩ := hmindsWait.channel channel _ hchRestored
  have haside₃ := haside restored hminds₃.current
  rw [hended₃] at haside₃
  obtain ⟨x, hx, hobserver, -⟩ :=
    (hminds₃.trans hmindsWait).roster.face w.nextFilament _ (begun_filament w reg channel value)
  obtain ⟨e, -, hcaught⟩ := exists_exit (ch.hearing es).dispositions result
  obtain ⟨outcome, late, w', hover, hwaited, hover', htold⟩ :=
    attempt_settle_channel hx hobserver hch₃ (.ownMain w.current) limit e reg
  rw [← Channel.hearing_append] at htold
  refine ⟨outcome, w', result, w₁, w₂, w₃, es, es₂, es₃, late, _, ?_,
    hover'.trans (haside₃.trans hlevel), fun _ h => begun_driver hfree channel value h, hresult, hes,
    hleave ▸ hturn, hch₂, Channel.restored_hearing .., hrestore ▸ hwait, hch₃, hwaited, htold⟩
  rw [← hcaught] at hguard
  rw [Flow.attempt, callProtected_eq_closing hfree hguard hturn hrestore hwait, ← Flow.attempt]
  exact hover

/-- Who has no seat for a call is told so, and nothing is said. -/
lemma callProtected_refused (hfree : ¬ w.roster.Free reg w.current) (limit : Duration) (routine : ρ)
    (channel : ObserverId) (value : UInt64) :
    ∃ why w', Driver.callProtected exec reg limit routine channel value w
        = (.ok (.error (.filament why)), w') ∧
      w'.running = w.running ∧ w'.observers = w.observers := by
  let w₀ := w.making (w.freshFilament channel {} value)
  have hattach : attach reg w.nextFilament w₀ = _ :=
    withRegistry_eq w₀ reg (·.attach reg ⟨w.current, w.nextFilament, true⟩)
  rw [Driver.callProtected, Flow.bind_ok (newFilament_eq ..), Flow.bind_ok (setValue_making ..),
    Flow.bind_ok hattach]
  rcases hresult : w₀.roster.attach reg ⟨w.current, w.nextFilament, true⟩ with ⟨why | u, r⟩
  · exact ⟨why, _, rfl, rfl, rfl⟩
  · exact absurd (Roster.free_of_attach hresult) hfree

/-! ### The call through the device -/

variable {c : ConnectionId} {fixture key : UInt16}

/-- A call comes to a routine: there is one, and its thread has a seat for it. -/
structure Reaches (w : World ρ ε) (c : ConnectionId) (fixture key : UInt16) (k : Connection ρ)
    (routine : ρ) : Prop where
  connection : w.device.get? c = some k
  available : k.available = true
  routine : k.routines.routine? fixture key = some routine
  free : w.roster.Free k.registry w.current

/-- What is known when a call is over. -/
structure CallKept (exec : Routines ρ ε) (w : World ρ ε) (c : ConnectionId)
    (fixture key : UInt16) (channel : ObserverId) (value : UInt64) (ch : Channel)
    (outcome : Except Payload (Except CallError CallResult)) (w' : World ρ ε) : Prop where
  /-- The thread is at the level at which it came. -/
  level : w'.running.level = w.running.level
  /-- If a routine ran, the channel was told of its level if that was another one. -/
  ran : ∀ k routine, Reaches w c fixture key k routine →
    ∃ result w₁ w₂ w₃ es es₂ es₃ late ch₁,
      Ran exec { w with device := w.device.modify c .enter } k.registry k.joinLimit routine channel
        value ch w' result w₁ w₂ w₃ es es₂ es₃ late ch₁
  /-- If none did, the call failed, and nothing was said. -/
  refused : (∀ k routine, ¬ Reaches w c fixture key k routine) →
    ∃ why, outcome = .ok (.error why) ∧ w'.observers = w.observers

/-- A call that comes to no routine ends there. -/
lemma call_refused (hnone : ∀ k routine, ¬ Reaches w c fixture key k routine)
    (channel : ObserverId) (value : UInt64) :
    ∃ why w', (Driver.call exec c fixture key channel value).attempt w
        = (.ok (.ok (.error why)), w') ∧
      w'.running = w.running ∧ w'.observers = w.observers := by
  let w₀ : World ρ ε := { w with device := w.device.modify c .enter }
  have henter : Driver.modify c .enter w = (.ok (), w₀) := rfl
  have hfound : seeDevice (·.get? c) w₀ = (.ok ((w.device.get? c).map .enter), w₀) :=
    congrArg (fun k => ((.ok k : Except Stop _), w₀)) (Pool.get?_modify_same ..)
  have hends {m : Act ρ ε (Except CallError CallResult)} (why : CallError)
      (hm : m w₀ = (.ok (.error why), w₀)) :
      ∃ why w', (m.ensuring (Driver.modify c .leave)).attempt w₀ = (.ok (.ok (.error why)), w') ∧
        w'.running = w.running ∧ w'.observers = w.observers :=
    ⟨why, _, Flow.attempt_ok (Flow.ensuring_ok hm rfl), rfl, rfl⟩
  cases hk : w.device.get? c with
  | none =>
    rw [hk] at hfound
    rw [Driver.call, Flow.attempt_bind_ok (Flow.attempt_ok henter)]
    exact hends _ (Flow.bind_ok hfound)
  | some k =>
    rw [hk] at hfound
    cases havailable : k.available with
    | false =>
      rw [Driver.call, Flow.attempt_bind_ok (Flow.attempt_ok henter)]
      refine hends .unavailable ((Flow.bind_ok hfound).trans ?_)
      simp only [Option.map_some, show k.enter.available = false from havailable]
      rfl
    | true =>
      cases hroutine : k.routines.routine? fixture key with
      | some routine =>
        have hfree : ¬ w₀.roster.Free k.registry w₀.current :=
          fun hfree => hnone k routine ⟨hk, havailable, hroutine, hfree⟩
        obtain ⟨why, w', hcall, hrunning, hobservers⟩ :=
          callProtected_refused hfree k.joinLimit routine channel value
        exact ⟨_, _, Driver.attempt_call hk havailable hroutine (Flow.attempt_ok hcall), hrunning,
          hobservers⟩
      | none =>
        rw [Driver.call, Flow.attempt_bind_ok (Flow.attempt_ok henter)]
        refine hends (.noRoutine fixture key) ((Flow.bind_ok hfound).trans ?_)
        simp only [Option.map_some, show k.enter.available = true from havailable,
          show k.enter.routines.routine? fixture key = none from hroutine]
        rfl

/-- A call ends, and gives its thread back at the level at which it came. -/
theorem call_level (hexec : ∀ routine, Mindful (exec routine)) (hothers : Mindful exec.others)
    (haside : Aside exec w.current) (ht : w.threads.get? w.current = some t)
    (hch : w.observers.get? channel = some (.channel ch)) (c : ConnectionId)
    (fixture key : UInt16) (value : UInt64) :
    ∃ outcome w', (Driver.call exec c fixture key channel value).attempt w = (.ok outcome, w') ∧
      CallKept exec w c fixture key channel value ch outcome w' := by
  by_cases hreaches : ∃ k routine, Reaches w c fixture key k routine
  · obtain ⟨k, routine, hkr⟩ := hreaches
    let w₀ : World ρ ε := { w with device := w.device.modify c .enter }
    obtain ⟨outcome, w', result, w₁, w₂, w₃, es, es₂, es₃, late, ch₁, hcall, hlevel, hran⟩ :=
      attempt_callProtected_level (w := w₀) (hexec routine) hothers ht hch hkr.free haside k.joinLimit
        value
    refine ⟨outcome, _, Driver.attempt_call hkr.connection hkr.available hkr.routine hcall, hlevel,
      fun k' routine' hkr' => ?_, fun hnone => absurd hkr (hnone k routine)⟩
    obtain rfl : k = k' := Option.some.inj (hkr.connection.symm.trans hkr'.connection)
    obtain rfl : routine = routine' := Option.some.inj (hkr.routine.symm.trans hkr'.routine)
    exact ⟨result, w₁, w₂, w₃, es, es₂, es₃, late, ch₁,
      { drivers := hran.drivers
        body := hran.body
        heard := hran.heard
        turn := hran.turn
        heard₂ := hran.heard₂
        restored := hran.restored
        wait := hran.wait
        heard₃ := hran.heard₃
        waited := hran.waited
        told := hran.told }⟩
  · have hnone (k : Connection ρ) (routine : ρ) : ¬ Reaches w c fixture key k routine :=
      fun hkr => hreaches ⟨k, routine, hkr⟩
    obtain ⟨why, w', hcall, hrunning, hobservers⟩ := call_refused hnone channel value
    exact ⟨_, w', hcall, congrArg Thread.level hrunning,
      fun k routine hkr => absurd hkr (hnone k routine), fun _ => ⟨why, rfl, hobservers⟩⟩

/-- Levels are given back: by calls, whatever their routines are made of, and by sinks that send
routines unwinding. -/
structure LevelsGivenBack (exec : Routines ρ ε) : Prop where
  /-- A call ends, and its thread is at the level at which it came, for other threads that are still
  at work leave its level alone. -/
  call : ∀ (w : World ρ ε) (t : Thread) (ch : Channel) (c : ConnectionId) (fixture key : UInt16)
    (channel : ObserverId) (value : UInt64), Aside exec w.current →
    w.threads.get? w.current = some t → w.observers.get? channel = some (.channel ch) →
    ∃ outcome w', (Driver.call exec c fixture key channel value).attempt w = (.ok outcome, w') ∧
      CallKept exec w c fixture key channel value ch outcome w'
  /-- What routines are made of ends, and leaves the registries of drivers to them. -/
  body : ∀ {α : Type} {m : Act ρ ε α}, Body m → ∀ w : World ρ ε, ∃ result w',
    m.attempt w = (.ok result, w') ∧ ∀ reg, w.roster.ForDriver reg → w'.roster.ForDriver reg
  /-- Whoever unwinds out of a sink is at passive level, and its observer has heard of the level
  from which it was brought there. -/
  sink : ∀ {α : Type} (s : Sink) (call : Sink.Call α) (w w' : World ρ ε) (p : Payload),
    w.roster.ForDriver s.registry → (s.perform call).attempt w = (.ok (.error p), w') →
    w'.running.level = .passive ∧
      ∃ m stack, w.roster.member? s.registry w.current = some m ∧
        Tells w m ((call.detail?.map (Event.mk · stack)).toList
          ++ Sink.abortNote w.running.level) w'

/-- Whatever the routines of a driver are made of, and whatever others do meanwhile, levels are given
back. -/
theorem levels_given_back (hexec : ∀ routine, Body (exec routine)) (hothers : Body exec.others) :
    LevelsGivenBack exec where
  call _ _ _ c fixture key _ value haside ht hch :=
    call_level (fun routine => (hexec routine).mindful) hothers.mindful haside ht hch c fixture key
      value
  body hm w := by
    obtain ⟨result, w', hresult, hminds⟩ := hm.mindful w
    exact ⟨result, w', hresult, hminds.roster.driver⟩
  sink _ _ _ _ _ hreg h := Sink.unwinds_at_passive hreg h

/-- A routine that leaves a raised level behind, and reports from a higher one.  Meanwhile another
thread raises its own level. -/
def climb : Routines Unit Unit where
  run _ := do
    let _ ← raiseLevel .dispatch
    raisedTo .synch (Sink.log ⟨Sink.version₃, 0⟩ "up")
  others := do
    let _ ← asThread 1 (raiseLevel .synch)

/-- A thread at a raised level that can call it, and another one. -/
def foothill : World Unit Unit where
  threads := ⟨#[{ level := .apc }, {}]⟩
  roster := { registries := ⟨#[{ kind := .driver }]⟩ }
  observers := ⟨#[.channel (.make ⟨.proceed, .proceed⟩ 4096)]⟩
  device := { connections := ⟨#[Driver.depot]⟩, entries := [(8, 0)] }
  store := ()

/-- The routine is at the level that it leaves behind. -/
def ridge : World Unit Unit := (raiseLevel .dispatch (begun foothill 0 0 0).world).2

/-- The other thread leaves the caller's level alone. -/
lemma aside_climb : Aside climb 0 := by
  rintro w hcurrent
  have hother : (climb.others.attempt w).2.threads.get? 0 = w.threads.get? 0 :=
    Pool.get?_modify_of_ne Nat.one_ne_zero _
  have hsame : (climb.others.attempt w).2.current = w.current := rfl
  rw [running, running, hsame, hcurrent, hother]

theorem levels_given_back_climb :
    (∀ routine, Body (climb routine)) ∧ Body climb.others ∧ Aside climb foothill.current ∧
      ridge.running.level = .dispatch ∧
      (climb () (begun foothill 0 0 0).world).2.running.level = .dispatch ∧
      (∃ outcome w', (Driver.call climb 0 0 0 0 0).attempt foothill = (.ok outcome, w') ∧
        w'.running.level = .apc) ∧
      ∃ w', (Sink.perform ⟨Sink.version₃, 0⟩ (.inconclusiveness "fog")).attempt ridge
          = (.ok (.error (.signal .inconclusive)), w') ∧ w'.running.level = .passive := by
  have hbody (routine : Unit) : Body (climb routine) :=
    (Body.raise .dispatch).bind fun _ =>
      Body.raisedTo .synch (.sink ⟨Sink.version₃, 0⟩ (.log "up"))
  have hothers : Body climb.others := (Body.asThread 1 (.raise .synch)).bind fun _ => .pure ()
  have hlevels := levels_given_back hbody hothers
  refine ⟨hbody, hothers, aside_climb, rfl, rfl, ?_, ?_⟩
  · obtain ⟨outcome, w', hcall, hkept⟩ := hlevels.call foothill _ _ 0 0 0 0 0 aside_climb rfl rfl
    exact ⟨outcome, w', hcall, hkept.level⟩
  · have hunwinds : (Sink.perform ⟨Sink.version₃, 0⟩ (.inconclusiveness "fog")).attempt ridge
        = (.ok (.error (.signal .inconclusive)), _) := ends_at (by decide +kernel)
    exact ⟨_, hunwinds, (hlevels.sink _ _ _ _ _ ⟨_, rfl, rfl, rfl⟩ hunwinds).1⟩

end World

end Testbench
