import Testbench.Proofs.Device
import Testbench.Proofs.Remote.Boundary
import Testbench.Proofs.Remote.Wire

/-!
# The driver's side of a call

A driver that is asked to call a routine binds the thread of the client once more, in a filament of
its own registry, and collects what the routine reports in the channel of the call.  The routine ends
as it would elsewhere, and the response says how; afterwards the connection is as before, and nothing
is left of the call but a filament and a channel that nobody uses any more.
-/

namespace Testbench

open World

/-! ### Channels -/

namespace Observer

/-- A channel queues what it hears. -/
lemma hears_channel (i : Identity) (c : Channel) (es : List Event) :
    (channel c).hears i es =
      channel { c with buffer := es.foldl (fun b e => (b.queue e).2) c.buffer } := by
  induction es generalizing c with
  | nil => rfl
  | cons e es ih => exact ih { c with buffer := (c.buffer.queue e).2 }

/-- To a channel a panic is an event like others. -/
lemma concludes_channel (i : Identity) (c : Channel) (e : Option Payload) :
    (channel c).concludes i e = (channel c).hears i (Script.lastEvent? e).toList := by
  rcases e with - | s | text <;> rfl

/-- A channel after a call. -/
lemma channel_heard (i : Identity) (c : Channel) (d : Dispositions) (steps : List Script.Step) :
    ((channel c).hears i (Script.eventsOf d steps)).concludes i (Script.endingOf d steps) =
      (channel c).hears i (Script.heard d steps) := by
  rw [hears_channel, concludes_channel, ← hears_channel, ← hears_append, Script.heard]

end Observer

namespace Script

lemma ending?_ne_breakpoint (d : Dispositions) (s : Step) :
    s.ending? d ≠ some (.signal .breakpoint) := by
  have hassertion : d.failedAssertion.ending? ≠ some (.signal .breakpoint) := by
    cases d.failedAssertion <;> simp [Disposition.ending?]
  cases s with
  | assertion style expression site => exact hassertion
  | comparison breaking expected actual expression site =>
    rw [Step.ending?]
    split
    · simp
    · exact hassertion
  | _ => simp [Step.ending?]

/-- No report script breaks into a debugger. -/
lemma endingOf_ne_breakpoint (d : Dispositions) (steps : List Step) :
    endingOf d steps ≠ some (.signal .breakpoint) := by
  induction steps with
  | nil => simp [endingOf]
  | cons s rest ih =>
    rw [endingOf]
    cases hs : s.ending? d with
    | none => exact ih
    | some payload =>
      rw [Option.some_or, ← hs]
      exact ending?_ne_breakpoint d s

end Script

namespace Driver

variable {ρ ε : Type} {w w' : World ρ ε} {channel : ObserverId} {registry : RegistryId}

lemma restoreLevel_eq (hw : w.Passive) (channel : ObserverId) :
    restoreLevel channel .passive w = (.ok (), w) := by
  rw [restoreLevel, Flow.bind_ok (level_eq hw), if_neg (by decide)]
  rfl

/-- The result of a call, by how the routine came out. -/
def resultFor (out : Outcome) (v : UInt64) : CallResult := ⟨out = .completed, out = .aborted, v⟩

/-- A routine that a driver calls comes out as it ends. -/
lemma callProtected_eq {exec : ρ → Act ρ ε Unit} {routine : ρ} {value : UInt64} {d : Dispositions}
    {x : Observer} {e : Option Payload} (hw : w.Passive) (hfree : w.roster.Free registry w.current)
    (hrun : exec routine (w.seated registry (w.freshFilament channel {} value)).armed
      = (Script.resultOf e, w'))
    (hwithin : Within w.nextFilament channel
      (w.seated registry (w.freshFilament channel {} value)).armed w')
    (he : e ≠ some (.signal .breakpoint)) (hx : w'.observers.get? channel = some x)
    (hd : x.Steady d) (hanswer : d.uncaughtException = .proceed ∨ d.uncaughtException = .abort)
    {limit : Duration} (hlimit : limit.Timed) :
    ∃ v w₂, callProtected exec registry limit routine channel value w
        = (.ok (.ok (resultFor (Script.outcomeOfEnding d e) v)), w₂) ∧
      Spares channel w w₂ ∧
      w₂.observers.get? channel = some (x.concludes (.ownMain w.current) e) := by
  obtain ⟨t, ht, -⟩ := id hw
  have hflags : ({} : FilamentFlags).capturesStacks = false := by decide
  have hbound := hwithin.bound (seated_bound hw hfree hflags)
  obtain ⟨y, hy, -, -, -, hrunning, hchild⟩ := hbound.filament
  have hseat := seated_filament w registry (w.freshFilament channel {} value)
  have hguard := guard_eq (w := w.seated registry _) ht hseat hflags he hrun hwithin.current_eq
    hbound hx hd hanswer
  obtain ⟨w₂, hdetach, hspares, hx₂⟩ :=
    detach_eq ht hwithin hfree hx (x.concludes (.ownMain w.current) e)
  let w₁ := (w'.disarmed t.keepsPanicStack).observing channel (x.concludes (.ownMain w.current) e)
  have hlevel : level (w.seated registry (w.freshFilament channel {} value))
      = (.ok .passive, w.seated registry (w.freshFilament channel {} value)) := level_eq hw
  have hrestore := restoreLevel_eq (passive_of_within ht hwithin hw
    (x.concludes (.ownMain w.current) e)) channel
  have hsettle := settle_eq (w := w₁) hy hrunning hchild (.ownMain w.current) hlimit
    (Script.outcomeOfEnding d e)
  have hvalue := seeFilament_eq (w := w₁) hy 0 (·.value .ordinary)
  refine ⟨y.value .ordinary, w₂, ?_, hspares, hx₂⟩
  rw [callProtected_alone, Flow.bind_ok (newFilament_eq ..), Flow.bind_ok (setValue_making ..),
    Flow.bind_ok (attach_eq hfree rfl)]
  refine (Flow.bind_ok (identityIn_eq hseat)).trans ((Flow.bind_ok hlevel).trans ?_)
  refine (Flow.bind_ok hguard).trans ((Flow.bind_ok hrestore).trans ?_)
  refine (Flow.bind_ok hsettle).trans ((Flow.bind_ok hvalue).trans ?_)
  exact Flow.bind_ok hdetach

/-! ### Through the device -/

section

variable {exec : Routines ρ ε} {request : CallRequest} {c : ConnectionId} {k : Connection ρ}
  {routine : ρ} {out : Outcome} {z : Observer}

/-- A call of a routine that is there comes out as it does under the protection of the connection. -/
lemma attempt_call {fixture key : UInt16} {value : UInt64} (hk : w.device.get? c = some k)
    (havailable : k.available = true) (hroutine : k.routines.routine? fixture key = some routine)
    {result : Except Payload (Except CallError CallResult)} {w₂ : World ρ ε}
    (hprotected : (callProtected exec k.registry k.joinLimit routine channel value).attempt
      { w with device := w.device.modify c .enter } = (.ok result, w₂)) :
    (call exec c fixture key channel value).attempt w
      = (.ok result, { w₂ with device := w₂.device.modify c .leave }) := by
  let locked := w.device.modify c .enter
  have henter : modify c .enter w = (.ok (), { w with device := locked }) := rfl
  have hfound : seeDevice (·.get? c) { w with device := locked }
      = (.ok (some k.enter), { w with device := locked }) := by
    have hget : locked.get? c = some k.enter := Device.get?_modify_self _ hk
    rw [seeDevice, Flow.see_apply, hget]
  have hthere : k.enter.available = true := havailable
  have hleave : modify c .leave w₂ = (.ok (), { w₂ with device := w₂.device.modify c .leave }) := rfl
  rw [call, Flow.attempt_bind_ok (Flow.attempt_ok henter)]
  refine Flow.attempt_ensuring_eq ((Flow.attempt_bind_ok (Flow.attempt_ok hfound)).trans ?_) hleave
  simp only [hthere, Bool.not_true, Bool.false_eq_true, if_false]
  rw [show k.enter.routines = k.routines from rfl, hroutine]
  exact hprotected

/-- A call through a connection that is found comes out as it does under the protection of the
connection. -/
lemma attempt_callAt (hserves : w.device.Serves request.address c k)
    (hroutine : k.routines.routine? request.fixture request.routine = some routine)
    {result : Except Payload (Except CallError CallResult)} {w₂ : World ρ ε}
    (hprotected : (callProtected exec k.registry k.joinLimit routine channel request.value).attempt
      { w with device := (w.device.modify c .retain).modify c .enter } = (.ok result, w₂)) :
    (callAt exec request channel).attempt w = (.ok (result.map (·.mapError .call)),
      { w₂ with device := (w₂.device.modify c .leave).release c }) := by
  -- the connection is held for the call, and let go in the end
  let held := w.device.modify c .retain
  have hlookup : lookup request.address w = (.ok (.ok c), { w with device := held }) := by
    rw [lookup, onDevice_eq, hserves.lookup_eq]
  have hheld : held.get? c = some k.retain := Device.get?_modify_self _ hserves.connection
  have hcalled := attempt_call (w := { w with device := held }) hheld hserves.available hroutine
    hprotected
  have hreleased := Flow.attempt_ensuring_eq hcalled
    (changeDevice_eq { w₂ with device := w₂.device.modify c .leave } (·.release c))
  rw [callAt, Flow.attempt_bind_ok (Flow.attempt_ok hlookup)]
  match result with
  | .error payload => exact Flow.attempt_bind_unwound hreleased
  | .ok (.error why) => exact Flow.attempt_bind_ok hreleased
  | .ok (.ok r) => exact Flow.attempt_bind_ok hreleased

/-- A call through a connection that is found leaves the connection as it was. -/
lemma callAt_eq (hserves : w.device.Serves request.address c k)
    (hroutine : k.routines.routine? request.fixture request.routine = some routine)
    (hcall : ∀ device, ∃ v w₂, callProtected exec k.registry k.joinLimit routine channel
        request.value { w with device } = (.ok (.ok (resultFor out v)), w₂) ∧
      Spares channel { w with device } w₂ ∧ w₂.observers.get? channel = some z) :
    ∃ v w₂, callAt exec request channel w = (.ok (.ok (resultFor out v)), w₂) ∧
      Spares channel w w₂ ∧ w₂.observers.get? channel = some z := by
  obtain ⟨v, w₂, hprotected, hspares, hz⟩ := hcall ((w.device.modify c .retain).modify c .enter)
  have hdevice : (w₂.device.modify c .leave).release c = w.device := by
    rw [hspares.device_eq, Device.leave_enter, hserves.release_eq]
  have hat := attempt_callAt hserves hroutine (Flow.attempt_ok hprotected)
  rw [hdevice] at hat
  refine ⟨v, { w₂ with device := w.device }, Flow.of_attempt_ok hat, ?_, hz⟩
  exact {
    current_eq := hspares.current_eq
    threads_eq := hspares.threads_eq
    registries_eq := hspares.registries_eq
    device_eq := rfl
    filament := hspares.filament
    observer := hspares.observer }

/-- The world with one more observer. -/
def opening (w : World ρ ε) (x : Observer) : World ρ ε :=
  { w with observers := (w.observers.add x).2 }

lemma newObserver_eq (w : World ρ ε) (x : Observer) :
    newObserver x w = (.ok w.observers.items.size, opening w x) := rfl

/-- The buffer of a call has room for the response. -/
lemma le_length_blankBuffer (capacity : Nat) :
    CallResponse.size ≤ (blankBuffer (CallResponse.size + capacity)).length := by
  rw [blankBuffer, List.length_replicate]
  exact Nat.le_add_right _ _

/-- The rest of it is for the events. -/
lemma blankBuffer_room (capacity : Nat) :
    (blankBuffer (CallResponse.size + capacity)).length - CallResponse.size = capacity := by
  rw [blankBuffer, List.length_replicate, Nat.add_sub_cancel_left]

section

variable {d : Dispositions} {input output : List UInt8} {w₂ : World ρ ε}

/-- A request in order gets as far as the call, which has a channel of its own. -/
lemma control_eq (hinput : CallRequest.ofBytes? input = some request)
    (haddress : request.address ≠ 0) (hd : dispositionsOf request = .ok d)
    (hsize : CallResponse.size ≤ output.length) :
    control exec ControlCode.call.code input output w = (do
      match ← callAt exec request w.observers.items.size with
      | .error why => return .error why
      | .ok result =>
        let events ← takeEvents w.observers.items.size
        return .ok (.writing .success ((responseOf result events).bytes ++ events.bytes) output) :
      Act ρ ε (Except ControlError Completion))
        (opening w (.channel (.make d (output.length - CallResponse.size)))) := by
  have hopen : newObserver (.channel (.make d (output.length - CallResponse.size))) w
      = (.ok w.observers.items.size,
        opening w (.channel (.make d (output.length - CallResponse.size)))) := rfl
  rw [control, ControlCode.ofCode?_code]
  simp only []
  rw [callRoutine, hinput]
  simp only [if_neg haddress, hd]
  rw [if_neg (Nat.not_lt.mpr hsize)]
  exact Flow.bind_ok hopen

/-- A request for a call comes back with a response and the records of the events. -/
lemma control_call_eq (hinput : CallRequest.ofBytes? input = some request)
    (haddress : request.address ≠ 0) (hd : dispositionsOf request = .ok d)
    (hsize : CallResponse.size ≤ output.length) {result : CallResult} {ch : Channel}
    (hcall : callAt exec request w.observers.items.size
      (opening w (.channel (.make d (output.length - CallResponse.size)))) = (.ok (.ok result), w₂))
    (hch : w₂.observers.get? w.observers.items.size = some (.channel ch)) :
    control exec ControlCode.call.code input output w
      = (.ok (.ok (.writing .success ((responseOf result ch.buffer).bytes ++ ch.buffer.bytes)
          output)), w₂.observing w.observers.items.size (.channel ch.take.2)) := by
  have htake : takeEvents w.observers.items.size w₂
      = (.ok ch.buffer, w₂.observing w.observers.items.size (.channel ch.take.2)) := tell_eq hch _ _
  rw [control_eq hinput haddress hd hsize]
  exact (Flow.bind_ok hcall).trans (Flow.bind_ok htake)

end

end

end Driver

namespace Script

open Driver

variable {w : Scene} {reg : RegistryId} {f : FilamentId} {o : ObserverId} {d : Dispositions}
  {script : ReportScript} {s : Sink}

lemma callProtected_along_eq {channel : ObserverId} {x : Observer} {value : UInt64} (hw : w.Passive)
    (hfree : w.roster.Free s.registry w.current) (hoffers : (Path.sink s).Offers)
    (hx : w.observers.get? channel = some x) (hd : x.Steady d)
    (hanswer : d.uncaughtException = .proceed ∨ d.uncaughtException = .abort) (depth : Nat)
    {limit : Duration} (hlimit : limit.Timed) :
    ∃ v w₂, callProtected (exec (depth + 1)) s.registry limit (script.along (.sink s)) channel
        value w = (.ok (.ok (resultFor (script.outcome d) v)), w₂) ∧
      Spares channel w w₂ ∧ w₂.observers.get? channel
        = some ((x.hears (.ownMain w.current) (eventsOf d script.steps)).concludes
          (.ownMain w.current) (endingOf d script.steps)) := by
  have hbound : (w.seated s.registry (w.freshFilament channel {} value)).armed.Bound s.registry
      w.nextFilament channel := seated_bound hw hfree (by decide)
  obtain ⟨w', hrun, hwithin, hx'⟩ :=
    exec_within (p := .sink s) script hoffers depth hbound hx hd
  exact callProtected_eq hw hfree hrun hwithin (endingOf_ne_breakpoint d script.steps) hx'
    (hd.hears ..) hanswer hlimit

/-- A driver that reports through a sink is connected, the running thread can be bound in its
registry, and the clock can time how long its calls wait. -/
structure Connected (w : Scene) (address : UInt64) (c : ConnectionId) (k : Connection Routine)
    (s : Sink) : Prop where
  serves : w.device.Serves address c k
  registry : k.registry = s.registry
  offers : (Path.sink s).Offers
  free : w.roster.Free s.registry w.current
  timed : k.joinLimit.Timed
  address : address ≠ 0

/-- A request to call a report script comes back with its outcome and what it reported, and to the
bound thread that made the request everything is as before. -/
lemma control_along_eq (hw : w.Bound reg f o) (request : CallRequest) {c : ConnectionId}
    {k : Connection Routine} (hconnected : Connected w request.address c k s)
    (hroutine : k.routines.routine? request.fixture request.routine
      = some (script.along (.sink s)))
    (hd : dispositionsOf request = .ok d)
    (hanswer : d.uncaughtException = .proceed ∨ d.uncaughtException = .abort) (depth capacity : Nat)
    {x : Observer} (hx : w.observers.get? o = some x) :
    ∃ completion v w', control (exec (depth + 1)) ControlCode.call.code request.bytes
        (blankBuffer (CallResponse.size + capacity)) w = (.ok (.ok completion), w') ∧
      completion.output.take completion.written
        = (responseOf (resultFor (script.outcome d) v)
            (Record.bufferAfter capacity (heard d script.steps))).bytes
          ++ (Record.bufferAfter capacity (heard d script.steps)).bytes ∧
      Within f o w w' ∧ w'.observers.get? o = some x := by
  let ch : Channel := .make d capacity
  let channel := (w.observers.add (.channel ch)).1
  let w₀ := opening w (.channel ch)
  have hchannel : w₀.observers.get? channel = some (.channel ch) := Pool.get?_add_self _ _
  have hheard : ((Observer.channel ch).hears (.ownMain w.current)
      (eventsOf d script.steps)).concludes (.ownMain w.current) (endingOf d script.steps)
      = .channel { ch with buffer := Record.bufferAfter capacity (heard d script.steps) } :=
    (Observer.channel_heard ..).trans (Observer.hears_channel ..)
  have hcall (device : Device Routine) : ∃ v w₂, callProtected (exec (depth + 1)) k.registry
      k.joinLimit (script.along (.sink s)) channel request.value { w₀ with device }
        = (.ok (.ok (resultFor (script.outcome d) v)), w₂) ∧
      Spares channel { w₀ with device } w₂ ∧ w₂.observers.get? channel = some
        (.channel { ch with buffer := Record.bufferAfter capacity (heard d script.steps) }) := by
    rw [← hheard, hconnected.registry]
    exact callProtected_along_eq (w := { w₀ with device }) (x := .channel ch) hw.passive
      hconnected.free hconnected.offers hchannel rfl hanswer depth hconnected.timed
  obtain ⟨v, w₂, hat, hspares, hch⟩ := callAt_eq (w := w₀)
    hconnected.serves hroutine hcall
  have hcontrol := control_call_eq (w := w)
    (CallRequest.ofBytes?_bytes request) hconnected.address hd (le_length_blankBuffer capacity)
    (by rw [blankBuffer_room]; exact hat) hch
  -- the channel is none of the observers that were there before
  have hobserver (z : Observer) (i : ObserverId) (y : Observer) (hi : w.observers.get? i = some y) :
      (w₂.observing channel z).observers.get? i = some y := by
    have hne : i ≠ channel := Pool.ne_add_of_some hi _
    exact (Pool.get?_modify_of_ne hne.symm _).trans
      (hspares.observer i y hne (Pool.get?_add_of_some hi _))
  refine ⟨_, v, _, hcontrol, List.take_left' rfl, ?_, hobserver _ o x hx⟩
  exact {
    current_eq := hspares.current_eq
    threads_eq := by
      obtain ⟨t, ht, -, -, hstack⟩ := hw.thread
      refine hspares.threads_eq.trans (Pool.modify_eq_self_of_some ht ?_)
      rw [← hstack]
    registries_eq := hspares.registries_eq
    device_eq := hspares.device_eq
    own := fun y hy => ⟨y.ordinary, hspares.filament f y hy⟩
    filament := fun g y _ hy => hspares.filament g y hy
    observer := fun i y _ hi => hobserver _ i y hi }

end Script

end Testbench
