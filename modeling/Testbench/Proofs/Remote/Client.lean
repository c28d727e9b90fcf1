import Testbench.Proofs.Remote.Call

/-!
# The client's side of a call

A remote routine comes out as the routine of the driver did, and the observer of the thread that
called it hears what the response brings along: what the records keep of the events that found room.
-/

namespace Testbench

open World

namespace RemoteRoutine

variable {ρ ε : Type} {w w' : World ρ ε} {reg : RegistryId} {f : FilamentId} {o : ObserverId}
  {d : Dispositions} {x : Observer}

/-- The request that a remote routine makes for the threads of a filament that report to an
observer. -/
def requestFor (r : RemoteRoutine) (y : Filament) (x : Observer) : CallRequest :=
  ⟨r.address, r.fixture, r.routine, (x.query .failedAssertion).code,
    (x.query .uncaughtException).code, y.value .ordinary⟩

lemma request_eq (r : RemoteRoutine) {m : Member} {y : Filament}
    (hy : w.roster.filaments.get? m.filament = some y)
    (hx : w.observers.get? y.observer = some x) :
    r.request m w = (.ok (r.requestFor y x), w) := by
  have hquery (kind : EventKind) :
      tell y.observer .proceed (fun x => (x.query kind, x)) w = (.ok (x.query kind), w) := by
    rw [tell_eq hx, observing_self hx]
  rw [request]
  refine (Flow.bind_ok (observerOf_eq hy)).trans ((Flow.bind_ok (hquery _)).trans ?_)
  exact (Flow.bind_ok (hquery _)).trans (Flow.bind_ok (seeFilament_eq hy 0 _))

/-- The answers that it asks for are those of the observer. -/
lemma dispositionsOf_requestFor (r : RemoteRoutine) (y : Filament) (x : Observer) :
    Driver.dispositionsOf (r.requestFor y x)
      = .ok ⟨x.query .failedAssertion, x.query .uncaughtException⟩ := by
  rw [requestFor, Driver.dispositionsOf, Disposition.ofCode?_code, Disposition.ofCode?_code]
  rfl

/-! ### What the observer hears -/

section

variable {m : Member} {y : Filament} (hy : w.roster.filaments.get? m.filament = some y)
  (hx : w.observers.get? y.observer = some x)

include hy hx

lemma note_member (message : String) :
    note m message w
      = (.ok (), w.observing y.observer (x.report m.identity (.note message)).2) := by
  rw [note, Flow.bind_ok (observerOf_eq hy)]
  exact Flow.bind_ok (tell_eq hx _ _)

/-- The observer hears of the events one after the other. -/
lemma forward_member (rs : List Record.Placed) :
    forward m rs w
      = (.ok (), w.observing y.observer (x.hears m.identity (rs.map (·.event)))) := by
  induction rs generalizing w x with
  | nil => exact congrArg (Prod.mk _) (observing_self hx).symm
  | cons r rs ih =>
    let x₁ := (x.report m.identity r.event).2
    have hrest := ih (w := w.observing y.observer x₁) hy (observing_observer hx x₁)
    rw [observing_observing] at hrest
    rw [forward, Flow.bind_ok (observerOf_eq hy)]
    exact (Flow.bind_ok (tell_eq hx _ _)).trans hrest

/-- What came back from a call is handed on: the filament takes over the value, and its observer hears
what is delivered. -/
lemma deliver_member (capacity : Nat) (es : List Event) (result : CallResult) :
    deliver m (Driver.responseOf result (Record.bufferAfter capacity es))
        (Record.bufferAfter capacity es).bytes w
      = (.ok (), w.touched m.filament y.observer result.value
        (x.hears m.identity (Record.delivered capacity es)) w.store) := by
  let rs := Record.placed 0 (Record.fitting capacity es)
  have hread : Record.readAll ((Record.fitting capacity es).flatMap Record.encode) = ⟨rs, none⟩ :=
    Record.readAll_flatMap _
  have hevents : rs.map (·.event) = (Record.fitting capacity es).map Record.kept :=
    Record.map_event_placed 0 _
  have hx' : w.observers.modify y.observer (fun _ => x) = w.observers :=
    Pool.modify_eq_self_of_some hx rfl
  have hset : changeFilament m.filament (·.setValue .ordinary result.value) w
      = (.ok (), w.touched m.filament y.observer result.value x w.store) := by
    rw [touched, hx']
    rfl
  -- the filament has another value, and the same observer
  have hy' (x' : Observer) :
      (w.touched m.filament y.observer result.value x' w.store).roster.filaments.get? m.filament
        = some (y.setValue .ordinary result.value) := Pool.get?_modify_self _ hy
  have hobserver : (y.setValue .ordinary result.value).observer = y.observer := rfl
  let x₁ := x.hears m.identity ((Record.fitting capacity es).map Record.kept)
  have hforward : forward m rs (w.touched m.filament y.observer result.value x w.store)
      = (.ok (), w.touched m.filament y.observer result.value x₁ w.store) := by
    have h := forward_member (hy' x) (touched_observer hx ..) rs
    rw [hevents, hobserver, touched_observing] at h
    exact h
  rw [deliver, Record.bufferAfter_eq, Driver.responseOf, EventBuffer.bytes]
  simp only [hread]
  refine (Flow.bind_ok hset).trans ((Flow.bind_ok hforward).trans ?_)
  rw [Record.delivered, Observer.hears_append]
  by_cases hall : (Record.fitting capacity es).length = es.length
  · have hfull : ((Record.fitting capacity es).length != es.length) = false := by
      rw [bne_eq_false_iff_eq, hall]
    simp only [hfull, if_pos hall]
    rfl
  · have hfull : ((Record.fitting capacity es).length != es.length) = true := bne_iff_ne.mpr hall
    have hnote := note_member (hy' x₁) (touched_observer hx ..)
      ("Event buffer full, only the first " ++
        toString (UInt32.ofNat (Record.fitting capacity es).length).toNat ++
        " events were delivered")
    rw [hobserver, touched_observing] at hnote
    simp only [hfull, if_neg hall]
    exact hnote

end

end RemoteRoutine

namespace Script

variable {w : Scene} {f : FilamentId} {o : ObserverId} {d : Dispositions} {x : Observer}

/-- How a remote routine ends, by the outcome of the driver's routine. -/
def endingFor : Outcome → Option Payload
  | .completed => none
  | .failed => some (.signal .failed)
  | .aborted => some (.signal .failedAbort)

lemma outcomeOfEnding_endingFor (d : Dispositions) (out : Outcome) :
    outcomeOfEnding d (endingFor out) = out := by
  cases out <;> rfl

lemma concludes_endingFor (i : Identity) (x : Observer) (out : Outcome) :
    x.concludes i (endingFor out) = x := by
  cases out <;> rfl

end Script

/-- A remote routine comes out by the outcome that the device answers with, and hands on what came
back. -/
lemma RemoteRoutine.run_of_control {ρ ε : Type} {exec : Routines ρ ε} (r : RemoteRoutine)
    {w w₁ : World ρ ε} {m : Member} {y y₁ : Filament} {x x₁ : Observer} {completion : Completion}
    {out : Outcome} {v : UInt64} {capacity : Nat} {es : List Event}
    (hm : membership r.client.registry false w = (.ok (.ok m), w))
    (hy : w.roster.filaments.get? m.filament = some y) (hx : w.observers.get? y.observer = some x)
    (hcontrol : Driver.control exec ControlCode.call.code (r.requestFor y x).bytes
      (blankBuffer (CallResponse.size + r.client.eventBuffer)) w = (.ok (.ok completion), w₁))
    (hbytes : completion.output.take completion.written
      = (Driver.responseOf (Driver.resultFor out v) (Record.bufferAfter capacity es)).bytes
        ++ (Record.bufferAfter capacity es).bytes)
    (hy₁ : w₁.roster.filaments.get? m.filament = some y₁)
    (hx₁ : w₁.observers.get? y₁.observer = some x₁) :
    r.run exec w = (Script.resultOf (Script.endingFor out), w₁.touched m.filament y₁.observer v
      (x₁.hears m.identity (Record.delivered capacity es)) w₁.store) := by
  have hdeliver := deliver_member hy₁ hx₁ capacity es (Driver.resultFor out v)
  let response := Driver.responseOf (Driver.resultFor out v) (Record.bufferAfter capacity es)
  have hcall : r.callDriver exec m w = (.ok (.ok response), w₁.touched m.filament y₁.observer v
      (x₁.hears m.identity (Record.delivered capacity es)) w₁.store) := by
    rw [callDriver, Flow.bind_ok (r.request_eq hy hx)]
    refine (Flow.bind_ok hcontrol).trans ?_
    simp only [hbytes, CallResponse.ofBytes?_bytes]
    rw [List.drop_left' (CallResponse.length_bytes _)]
    exact Flow.bind_ok hdeliver
  rw [run, Flow.bind_ok hm]
  refine (Flow.bind_ok hcall).trans ?_
  have haborts : response.aborts = decide (out = .aborted) := rfl
  have hcompleted : response.completed = decide (out = .completed) := rfl
  simp only [haborts, hcompleted]
  cases out <;> rfl

namespace Script

variable {w : Scene} {f : FilamentId} {o : ObserverId} {d : Dispositions} {x : Observer}

/-- A remote routine does what the routine of the driver does, with its reports cut down to what
records keep and to the room that there is for them. -/
lemma run_remote_eq {r : RemoteRoutine} (hw : w.Bound r.client.registry f o)
    (hx : w.observers.get? o = some x) (hd : x.Steady d)
    (hanswer : d.uncaughtException = .proceed ∨ d.uncaughtException = .abort) {c : ConnectionId}
    {k : Connection Routine} {s : Sink} (hconnected : Connected w r.address c k s)
    {script : ReportScript}
    (hroutine : k.routines.routine? r.fixture r.routine = some (script.along (.sink s)))
    (depth : Nat) :
    ∃ w', r.run (exec (depth + 1)) w = (resultOf (endingFor (script.outcome d)), w') ∧
      Within f o w w' ∧ w'.observers.get? o = some (x.hears (.ownMain w.current)
        (Record.delivered r.client.eventBuffer (heard d script.steps))) := by
  obtain ⟨y, hy, rfl, -⟩ := hw.filament
  have hrequest := r.request_eq (m := w.placeOf f) hy hx
  have hdispositions := r.dispositionsOf_requestFor y x
  rw [hd.query_eq, hd.query_eq] at hdispositions
  obtain ⟨completion, v', w₁, hcontrol, hbytes, hwithin, hx₁⟩ := control_along_eq hw
    (r.requestFor y x) hconnected hroutine hdispositions hanswer depth r.client.eventBuffer hx
  obtain ⟨y₁, hy₁, hobserver, -⟩ := (hwithin.bound hw).filament
  rw [← hobserver] at hx₁
  have hrun := r.run_of_control (hw.membership_eq false) hy hx hcontrol hbytes hy₁ hx₁
  rw [hobserver] at hrun hx₁
  exact ⟨_, hrun, hwithin.trans (within_touched ..), touched_observer hx₁ ..⟩

end Script

end Testbench
