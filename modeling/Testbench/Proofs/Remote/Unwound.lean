import Testbench.Proofs.Remote.Client
import Testbench.Proofs.Response

/-!
# What a client misses

If a routine of a driver unwinds and the unwind goes on past its boundary, it goes on through the
device and through the remote routine that called it.  Nobody takes the events out of the channel of
the call then, so the observer of the client hears nothing of what was reported before, however much
room there was.  It is the same when the wait for the threads of the routine cannot be timed, and
unwinds in place of the routine.
-/

namespace Testbench.RemoteRoutine

open World Crew Driver
open Record (encode)

variable {ρ ε : Type} {exec : Routines ρ ε} {c : ConnectionId} {k : Connection ρ} {routine : ρ}
  {w : World ρ ε} {es : List Event} {result : Except Payload Unit} {s₁ : State ρ ε} {m : Member}
  {y : Filament} {x : Observer} {p : Payload}

/-- The answers of an observer. -/
def answersOf (x : Observer) : Dispositions := ⟨x.query .failedAssertion, x.query .uncaughtException⟩

/-- A channel with room for all of some events holds their records. -/
lemma hearing_make {d : Dispositions} {capacity : Nat} {events : List Event}
    (hroom : (events.flatMap encode).length ≤ capacity) :
    ((Channel.make d capacity).hearing events).buffer.bytes = events.flatMap encode ∧
      ((Channel.make d capacity).hearing events).buffer.truncated = false := by
  have hbuffer := Record.bufferAfter_eq capacity events
  rw [Record.fitting_eq_self hroom] at hbuffer
  have hheard : ((Channel.make d capacity).hearing events).buffer
      = Record.bufferAfter capacity events := rfl
  rw [hheard, hbuffer]
  exact ⟨rfl, bne_self_eq_false _⟩

/-- What unwinds out of the device unwinds out of the remote routine. -/
lemma attempt_run (r : RemoteRoutine) {w' : World ρ ε}
    (hm : membership r.client.registry false w = (.ok (.ok m), w))
    (hy : w.roster.filaments.get? m.filament = some y) (hx : w.observers.get? y.observer = some x)
    (hcontrol : (Driver.control exec ControlCode.call.code (r.requestFor y x).bytes
      (blankBuffer (CallResponse.size + r.client.eventBuffer))).attempt w = (.ok (.error p), w')) :
    (r.run exec).attempt w = (.ok (.error p), w') := by
  have hcalled : (r.callDriver exec m).attempt w = (.ok (.error p), w') := by
    rw [callDriver, Flow.attempt_bind_ok (Flow.attempt_ok (r.request_eq hy hx))]
    exact Flow.attempt_bind_unwound hcontrol
  rw [run, Flow.attempt_bind_ok (Flow.attempt_ok hm)]
  exact Flow.attempt_bind_unwound hcalled

/-- A remote routine whose driver's routine unwinds past its boundary unwinds too.  All observers are
as they were when nobody was left to wait for, that of the client among them; and what was said in
the call stays in the channel, even if nothing was dropped. -/
theorem run_unwinds (r : RemoteRoutine)
    (hm : membership r.client.registry false w = (.ok (.ok m), w))
    (hy : w.roster.filaments.get? m.filament = some y) (hx : w.observers.get? y.observer = some x)
    (h : InOrder w (r.requestFor y x) (answersOf x) c k routine)
    (hperforms : Performs exec w (r.requestFor y x) (answersOf x) r.client.eventBuffer c k routine es
      result s₁)
    (hgoes : (Boundary.caughtFor (answersOf x) result).payload? = some p) :
    ∃ w' ch, (r.run exec).attempt w
        = (.ok (.error (if k.joinLimit.Timed then p else untimed)), w') ∧
      y.observer ≠ w.observers.items.size ∧
      w'.observers = s₁.world.observers ∧
      w'.observers.get? w.observers.items.size = some (.channel ch) ∧
      ((es.flatMap encode).length ≤ r.client.eventBuffer →
        ch.buffer.truncated = false ∧ ch.buffer.bytes = es.flatMap encode) := by
  rw [← blankBuffer_room r.client.eventBuffer] at hperforms
  have hinput := CallRequest.ofBytes?_bytes (r.requestFor y x)
  obtain ⟨w', hcontrol, hobservers, hchannel⟩ : ∃ w',
      (control exec ControlCode.call.code (r.requestFor y x).bytes
        (blankBuffer (CallResponse.size + r.client.eventBuffer))).attempt w
          = (.ok (.error (if k.joinLimit.Timed then p else untimed)), w') ∧
        w'.observers = s₁.world.observers ∧ w'.observers.get? w.observers.items.size
          = some (.channel ((Channel.make (answersOf x) _).hearing es)) := by
    by_cases hlimit : k.joinLimit.Timed
    · rw [if_pos hlimit]
      exact attempt_control_unwinds hinput (le_length_blankBuffer _) h hlimit hperforms hgoes
    · rw [if_neg hlimit]
      exact attempt_control_untimed hinput (le_length_blankBuffer _) h hlimit hperforms
  rw [blankBuffer_room] at hchannel
  refine ⟨w', _, r.attempt_run hm hy hx hcontrol, Pool.ne_add_of_some hx x, hobservers, hchannel,
    fun hfits => ?_⟩
  obtain ⟨hbytes, hall⟩ := hearing_make (d := answersOf x) hfits
  exact ⟨hall, hbytes⟩

/-- A routine that logs something and breaks where there is no debugger. -/
def breaksAfterLog : Act Unit Unit Unit := do
  sink.log "packed"
  Flow.unwind (.signal .breakpoint)

/-- A recorder that has not heard of anything. -/
def fresh : Observer := .recorder (.answering .proceed)

/-- A world with the driver of that routine and with a client, whose thread is bound. -/
def clientWorld : World Unit Unit where
  roster := {
    filaments := ⟨#[{ observer := 0, mainThread := 0, flags := {} }]⟩
    registries := ⟨#[{ kind := .driver }, { kind := .program, table := ⟨[⟨0, 0, true⟩]⟩ }]⟩ }
  observers := ⟨#[fresh]⟩
  device := { connections := ⟨#[depot]⟩, entries := [(8, 0)] }
  store := ()

/-- The routine as the client calls it. -/
def remoteBreak : RemoteRoutine := ⟨{ registry := 1, eventBuffer := 100 }, 8, 0, 0⟩

/-- What the client asks for. -/
def breakRequest : CallRequest :=
  remoteBreak.requestFor { observer := 0, mainThread := 0, flags := {} } fresh

lemma inOrder_break : InOrder clientWorld breakRequest (answersOf fresh) 0 depot () where
  address := by decide
  dispositions := rfl
  serves := ⟨rfl, rfl, rfl, by decide, rfl⟩
  routine := rfl
  thread := ⟨_, rfl⟩
  free := ⟨_, rfl, rfl, by decide⟩

/-- The routine begins. -/
def breakStart : State Unit Unit := startOf clientWorld breakRequest (answersOf fresh) 100 0 depot

/-- The world when the routine broke. -/
def broken : World Unit Unit := ((sink.log "packed").attempt breakStart.world).2

/-- The recorder does not hear the message, and the level stays. -/
lemma broken_fresh : broken.current = 0 ∧ broken.running.level = .passive ∧
    (restoreLevel 1 .passive (Boundary.leave 1 (.ownMain 0) false
      (.error (.signal .breakpoint)) broken).2).2.observers.get? 0 = some fresh := ⟨rfl, rfl, rfl⟩

/-- The routine runs until it breaks. -/
lemma performs_break : ∃ s₁,
    Performs (fun _ : Unit => breaksAfterLog) clientWorld breakRequest (answersOf fresh) 100 0 depot
      () [.note "packed"] (.error (.signal .breakpoint)) s₁ ∧
    s₁.world.observers.get? 0 = some fresh := by
  let w : World Unit Unit := admitted clientWorld (answersOf fresh) 100 0
  have hs₀ : Reporting 0 1 (.ofSeconds 60) 1 0 breakStart :=
    reporting_begun (w := w) Nat.zero_lt_one inOrder_break.free rfl (fun _ ha => nomatch ha)
  obtain ⟨s₁, hlog, hs₁, hworkers⟩ := hs₀.log sink rfl "packed"
  have hbreak : Does 0 1 (.ofSeconds 60) 1 0 (Flow.unwind (.signal .breakpoint)) s₁ []
      (.error (.signal .breakpoint) : Except Payload Unit) s₁ :=
    .of_spares hs₁.there rfl (.of_quiet (.refl _)) (.refl _) rfl
  have hdoes : Does 0 1 (.ofSeconds 60) 1 0 breaksAfterLog breakStart [.note "packed"]
    (.error (.signal .breakpoint)) s₁ := hlog.bind hbreak
  have hcourse : Course (fun _ : Unit => breaksAfterLog : Unit → Act Unit Unit Unit) 0
      (.ofSeconds 60) 1 breakRequest.value () w _ _ _ :=
    .alone rfl hdoes fun i p hp => by
      rw [hworkers] at hp
      cases hp
  obtain ⟨hcurrent, hlevel, hrecorder⟩ := broken_fresh
  have hbroken : s₁.world = broken := (congrArg Prod.snd hlog.attempt).symm
  rw [told, hbroken, hlevel] at hcourse
  refine ⟨_, hcourse, ?_⟩
  show (restoreLevel 1 .passive (Boundary.leave 1 (.ownMain s₁.world.current) false
    (.error (.signal .breakpoint)) s₁.world).2).2.observers.get? 0 = some fresh
  rw [hbroken, hcurrent]
  exact hrecorder

/-- The recorder has not heard of the message in the end, though it stayed in the channel of the
call. -/
theorem run_unwinds_break : ∃ w' ch,
    (remoteBreak.run (fun _ : Unit => breaksAfterLog)).attempt clientWorld
      = (.ok (.error (.signal .breakpoint)), w') ∧
    w'.observers.get? 0 = some fresh ∧ w'.observers.get? 1 = some (.channel ch) ∧
    ch.buffer.truncated = false ∧ ch.buffer.bytes = encode (.note "packed") := by
  obtain ⟨s₁, hperforms, hrecorder⟩ := performs_break
  obtain ⟨w', ch, hrun, -, hobservers, hch, hall⟩ := run_unwinds (m := ⟨0, .ownMain 0, true⟩)
    (w := clientWorld) (x := fresh) remoteBreak rfl rfl rfl inOrder_break hperforms rfl
  rw [if_pos (show depot.joinLimit.Timed by decide)] at hrun
  obtain ⟨htruncated, hbytes⟩ := hall (by decide +kernel)
  exact ⟨w', ch, hrun, hobservers ▸ hrecorder, hch, htruncated, hbytes.trans (List.append_nil _)⟩

/-- The message has room in the buffer of the call, and still the recorder of the client never hears
it. -/
theorem run_breaksAfterLog : ∃ w',
    remoteBreak.run (fun _ : Unit => breaksAfterLog) clientWorld
      = (.error (.unwound (.signal .breakpoint)), w') ∧
    w'.observers.get? 0 = some fresh ∧
    (encode (.note "packed")).length ≤ remoteBreak.client.eventBuffer := by
  obtain ⟨s₁, hperforms, hrecorder⟩ := performs_break
  rw [← blankBuffer_room 100] at hperforms
  obtain ⟨w', hcontrol, hobservers, -⟩ := attempt_control_unwinds
    (CallRequest.ofBytes?_bytes breakRequest) (le_length_blankBuffer _) inOrder_break (by decide)
    hperforms rfl
  have hrun := remoteBreak.attempt_run (m := ⟨0, .ownMain 0, true⟩) (w := clientWorld) (x := fresh)
    rfl rfl rfl hcontrol
  exact ⟨w', Flow.of_attempt_unwound hrun, hobservers ▸ hrecorder, by decide +kernel⟩

end Testbench.RemoteRoutine
