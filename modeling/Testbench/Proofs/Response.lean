import Testbench.Proofs.Channel
import Testbench.Proofs.Crew.Called

/-!
# What a response says

A request to call a routine is answered in the buffer that came with it: first a response, then the
records of what was reported as far as they fit, then what was there before.  The response tells how
the routine and its threads came out, what value they left, how many records there are and whether
some are missing.  It takes a limit for the wait that the clock can time; with any other one the
request unwinds.
-/

namespace Testbench.Driver

open World Crew
open Record (Keeps encode fitting)

variable {ρ ε : Type} {exec : Routines ρ ε} {input output : List UInt8} {request : CallRequest}
  {d : Dispositions} {capacity : Nat} {c : ConnectionId} {k : Connection ρ} {routine : ρ}
  {w : World ρ ε} {es events : List Event} {result : Except Payload Unit} {s₁ : State ρ ε}
  {o : Outcome} {v : UInt64}

/-! ### Requests in order -/

/-- A request names a routine of a driver that is there, and the calling thread can be bound. -/
structure InOrder (w : World ρ ε) (request : CallRequest) (d : Dispositions) (c : ConnectionId)
    (k : Connection ρ) (routine : ρ) : Prop where
  address : request.address ≠ 0
  dispositions : dispositionsOf request = .ok d
  serves : w.device.Serves request.address c k
  routine : k.routines.routine? request.fixture request.routine = some routine
  thread : ∃ t, w.threads.get? w.current = some t
  free : w.roster.Free k.registry w.current

/-- The world in which a routine is about to be called: there is a channel for what is reported, and
the connection is held and locked. -/
def admitted (w : World ρ ε) (d : Dispositions) (capacity : Nat) (c : ConnectionId) : World ρ ε :=
  { opening w (.channel (.make d capacity)) with
    device := (w.device.modify c .retain).modify c .enter }

/-- The routine of a request begins. -/
def startOf (w : World ρ ε) (request : CallRequest) (d : Dispositions) (capacity : Nat)
    (c : ConnectionId) (k : Connection ρ) : State ρ ε :=
  begun (admitted w d capacity c) k.registry w.observers.items.size request.value

/-- It begins with the value of the request. -/
lemma valueIn_startOf (w : World ρ ε) (request : CallRequest) (d : Dispositions) (capacity : Nat)
    (c : ConnectionId) (k : Connection ρ) :
    (startOf w request d capacity c k).world.valueIn w.nextFilament = some request.value := by
  have hx := begun_filament (admitted w d capacity c) k.registry w.observers.items.size request.value
  exact congrArg (Option.map (Filament.value · .ordinary)) hx

/-- A call goes as a request asks for it, until its threads are finished: events are reported on the
way, and the routine returns or unwinds. -/
def Performs (exec : Routines ρ ε) (w : World ρ ε) (request : CallRequest) (d : Dispositions)
    (capacity : Nat) (c : ConnectionId) (k : Connection ρ) (routine : ρ) (es : List Event)
    (result : Except Payload Unit) (s₁ : State ρ ε) : Prop :=
  Course exec k.registry k.joinLimit w.observers.items.size request.value routine
    (admitted w d capacity c) es result s₁

lemma map_answer (e : Exit) (r : CallResult) :
    (e.answer (.ok r : Except CallError CallResult)).map (·.mapError ControlError.call)
      = e.answer (.ok r) := by
  rw [Exit.answer, Exit.answer]
  cases e.caught.payload? <;> rfl

/-- A call comes out, whether its routine returns or unwinds, and its channel has all that was said.
Nothing happens to the roster but that the calling thread leaves its seat. -/
theorem attempt_callAt_performs (h : InOrder w request d c k routine) (hlimit : k.joinLimit.Timed)
    (hperforms : Performs exec w request d capacity c k routine es result s₁) :
    ∃ (e : Exit) (o : Outcome) (v : UInt64) (w' : World ρ ε),
      e.caught = Boundary.caughtFor d result ∧
      (callAt exec request w.observers.items.size).attempt
        (opening w (.channel (.make d capacity))) = (.ok (e.answer (.ok (resultFor o v))), w') ∧
      IsGreatest (insert e.caught.toOutcome (outcomes .completed s₁.workers)) o ∧
      s₁.world.valueIn w.nextFilament = some v ∧
      w'.observers = s₁.world.observers ∧
      w'.observers.get? w.observers.items.size
        = some (.channel ((Channel.make d capacity).hearing es)) ∧
      w'.roster = s₁.world.roster.detach k.registry w.current := by
  obtain ⟨t, ht⟩ := h.thread
  have hch : (admitted w d capacity c).observers.get? w.observers.items.size
      = some (.channel (.make d capacity)) := Pool.get?_add_self _ _
  obtain ⟨e, o, v, w₁, hcaught, hprotected, hworst, hvalue, hobservers, hchannel, hroster⟩ :=
    attempt_callProtected (w := admitted w d capacity c) ht hch hlimit h.free hperforms
  have hat := attempt_callAt (w := opening w (.channel (.make d capacity))) h.serves h.routine
    hprotected
  rw [map_answer] at hat
  exact ⟨e, o, v, _, hcaught, hat, hworst, hvalue, hobservers, hchannel, hroster⟩

/-- An unwind that goes past a call goes past the request. -/
lemma attempt_control_of_unwound (hinput : CallRequest.ofBytes? input = some request)
    (hsize : CallResponse.size ≤ output.length) (h : InOrder w request d c k routine) {p : Payload}
    {w₁ : World ρ ε} (hat : (callAt exec request w.observers.items.size).attempt
      (opening w (.channel (.make d (output.length - CallResponse.size)))) = (.ok (.error p), w₁)) :
    (control exec ControlCode.call.code input output).attempt w = (.ok (.error p), w₁) := by
  rw [Flow.attempt, control_eq hinput h.address h.dispositions hsize, ← Flow.attempt]
  exact Flow.attempt_bind_unwound hat

/-- If the unwind of the routine goes on past its boundary it goes on past the request, and the
channel keeps what was said. -/
theorem attempt_control_unwinds (hinput : CallRequest.ofBytes? input = some request)
    (hsize : CallResponse.size ≤ output.length) (h : InOrder w request d c k routine)
    (hlimit : k.joinLimit.Timed)
    (hperforms : Performs exec w request d (output.length - CallResponse.size) c k routine es result
      s₁) {p : Payload} (hgoes : (Boundary.caughtFor d result).payload? = some p) :
    ∃ w', (control exec ControlCode.call.code input output).attempt w = (.ok (.error p), w') ∧
      w'.observers = s₁.world.observers ∧
      w'.observers.get? w.observers.items.size = some
        (.channel ((Channel.make d (output.length - CallResponse.size)).hearing es)) := by
  obtain ⟨e, o, v, w₁, hcaught, hat, -, -, hobservers, hchannel, -⟩ :=
    attempt_callAt_performs h hlimit hperforms
  have hanswer : e.answer (.ok (resultFor o v) : Except ControlError CallResult) = .error p := by
    rw [Exit.answer, hcaught, hgoes]
  rw [hanswer] at hat
  exact ⟨w₁, attempt_control_of_unwound hinput hsize h hat, hobservers, hchannel⟩

/-- If no clock can time its wait, a call unwinds from there past the request. -/
theorem attempt_control_untimed (hinput : CallRequest.ofBytes? input = some request)
    (hsize : CallResponse.size ≤ output.length) (h : InOrder w request d c k routine)
    (hlimit : ¬ k.joinLimit.Timed)
    (hperforms : Performs exec w request d (output.length - CallResponse.size) c k routine es result
      s₁) :
    ∃ w', (control exec ControlCode.call.code input output).attempt w = (.ok (.error untimed), w') ∧
      w'.observers = s₁.world.observers ∧
      w'.observers.get? w.observers.items.size = some
        (.channel ((Channel.make d (output.length - CallResponse.size)).hearing es)) := by
  obtain ⟨t, ht⟩ := h.thread
  have hch : (admitted w d (output.length - CallResponse.size) c).observers.get?
      w.observers.items.size = some (.channel (.make d (output.length - CallResponse.size))) :=
    Pool.get?_add_self _ _
  obtain ⟨-, -, -, hheard, -⟩ := Course.reaches
    (w := admitted w d (output.length - CallResponse.size) c) ht hch h.free hperforms
  have hprotected := attempt_callProtected_untimed
    (w := admitted w d (output.length - CallResponse.size) c) ht hch hlimit h.free hperforms
  have hat := attempt_callAt
    (w := opening w (.channel (.make d (output.length - CallResponse.size)))) h.serves h.routine
    hprotected
  have hobservers := panicked_observers s₁.world
  have hcontrol := attempt_control_of_unwound (p := untimed) hinput hsize h hat
  exact ⟨_, hcontrol, hobservers, hobservers ▸ hheard.channel_eq hch⟩

/-! ### Accounts -/

/-- What a buffer says after a call, which came out with an outcome and a value after events were
reported. -/
structure Accounts (output : List UInt8) (events : List Event) (o : Outcome) (v : UInt64)
    (done : Completion) (response : CallResponse) : Prop where
  success : done.status = .success
  header_le : CallResponse.size ≤ done.written
  written_le : done.written ≤ output.length
  length_eq : done.output.length = output.length
  /-- What follows is as it was. -/
  rest_eq : done.output.drop done.written = output.drop done.written
  response_eq : CallResponse.ofBytes? done.output = some response
  completed_iff : response.completed = true ↔ o = .completed
  aborts_iff : response.aborts = true ↔ o = .aborted
  not_both : ¬ (response.completed = true ∧ response.aborts = true)
  value_eq : response.value = v
  /-- Something is missing just if it did not fit. -/
  truncated_iff : response.truncated = true ↔
    (fitting (output.length - CallResponse.size) events).length < events.length
  /-- What fitted is read back, in order.  Only so long a buffer has more records than can be
  counted. -/
  read : ∃ rs, Record.readAll ((done.output.take done.written).drop CallResponse.size) = ⟨rs, none⟩ ∧
    List.Forall₂ (fun e r => Keeps e r.event) (fitting (output.length - CallResponse.size) events)
      rs ∧
    response.eventCount.toNat = rs.length % UInt32.size ∧
    (output.length ≤ 0x2000000000 → response.eventCount.toNat = rs.length)

/-- Bytes that fit at the start of a buffer leave its length as it was. -/
lemma length_writing {bytes : List UInt8} (h : bytes.length ≤ output.length)
    (status : ControlStatus) :
    (Completion.writing status bytes output).output.length = output.length := by
  show (bytes ++ output.drop bytes.length).length = output.length
  rw [List.length_append, List.length_drop]
  omega

lemma take_writing (status : ControlStatus) (bytes output : List UInt8) :
    (Completion.writing status bytes output).output.take
      (Completion.writing status bytes output).written = bytes := List.take_left

lemma drop_writing (status : ControlStatus) (bytes output : List UInt8) :
    (Completion.writing status bytes output).output.drop
      (Completion.writing status bytes output).written = output.drop bytes.length := List.drop_left

/-- The records of events are read back as what records keep of them. -/
lemma read_records (es : List Event) : ∃ rs, Record.readAll (es.flatMap encode) = ⟨rs, none⟩ ∧
    List.Forall₂ (fun e r => Keeps e r.event) es rs ∧ rs.length = es.length := by
  have hplaced := Channel.forall₂_placed 0 es
  exact ⟨_, Record.readAll_flatMap es, hplaced.imp fun _ _ h => h.1, hplaced.length_eq.symm⟩

section

variable (r : CallResult) (capacity : Nat) (events : List Event)

lemma bytes_bufferAfter :
    (Record.bufferAfter capacity events).bytes = (fitting capacity events).flatMap encode := by
  rw [Record.bufferAfter_eq]
  rfl

lemma truncated_responseOf :
    (responseOf r (Record.bufferAfter capacity events)).truncated = true ↔
      (fitting capacity events).length < events.length := by
  have hle := Record.length_fitting_le capacity events
  rw [responseOf, Record.bufferAfter_eq, bne_iff_ne]
  omega

lemma eventCount_responseOf :
    (responseOf r (Record.bufferAfter capacity events)).eventCount.toNat
      = (fitting capacity events).length % UInt32.size := by
  rw [responseOf, Record.bufferAfter_eq]
  exact UInt32.toNat_ofNat'

/-- A buffer of that capacity has no more records than can be counted. -/
lemma length_fitting_lt (h : capacity < 0x2000000000) :
    (fitting capacity events).length < UInt32.size := by
  have hroom := Record.length_flatMap_fitting_le capacity events
  have hfew := Record.le_length_flatMap_encode (fitting capacity events)
  have hword : UInt32.size = 0x100000000 := rfl
  omega

end

/-- A response and the records of what fitted are such an account. -/
lemma accounts_writing (hsize : CallResponse.size ≤ output.length) (events : List Event)
    (o : Outcome) (v : UInt64) :
    Accounts output events o v
      (.writing .success ((responseOf (resultFor o v)
          (Record.bufferAfter (output.length - CallResponse.size) events)).bytes
        ++ (Record.bufferAfter (output.length - CallResponse.size) events).bytes) output)
      (responseOf (resultFor o v)
        (Record.bufferAfter (output.length - CallResponse.size) events)) := by
  obtain ⟨response, hresponse⟩ : ∃ response, responseOf (resultFor o v)
    (Record.bufferAfter (output.length - CallResponse.size) events) = response := ⟨_, rfl⟩
  let kept := fitting (output.length - CallResponse.size) events
  have hbytes : (Record.bufferAfter (output.length - CallResponse.size) events).bytes
      = kept.flatMap encode := bytes_bufferAfter _ events
  have hroom : (kept.flatMap encode).length ≤ output.length - CallResponse.size :=
    Record.length_flatMap_fitting_le _ events
  obtain ⟨rs, hread, hkeeps, hlength⟩ := read_records kept
  have hcount : response.eventCount.toNat = rs.length % UInt32.size := by
    rw [← hresponse, hlength, eventCount_responseOf]
  have hwritten : (response.bytes ++ kept.flatMap encode).length
      = CallResponse.size + (kept.flatMap encode).length := by
    rw [List.length_append, CallResponse.length_bytes]
  have hfits : (response.bytes ++ kept.flatMap encode).length ≤ output.length := by
    omega
  rw [hbytes, hresponse]
  exact {
    success := rfl
    header_le := Nat.le_trans (Nat.le_add_right _ _) (Nat.le_of_eq hwritten.symm)
    written_le := hfits
    length_eq := length_writing hfits _
    rest_eq := drop_writing _ _ _
    response_eq := by
      rw [Completion.writing, List.append_assoc]
      exact CallResponse.ofBytes?_bytes _ _
    completed_iff := by
      rw [← hresponse]
      exact decide_eq_true_iff
    aborts_iff := by
      rw [← hresponse]
      exact decide_eq_true_iff
    not_both := by
      rw [← hresponse]
      rintro ⟨hcompleted, haborts⟩
      cases (of_decide_eq_true hcompleted).symm.trans (of_decide_eq_true haborts)
    value_eq := by
      rw [← hresponse]
      rfl
    truncated_iff := by
      rw [← hresponse]
      exact truncated_responseOf _ _ _
    read := by
      refine ⟨rs, ?_, hkeeps, hcount, fun hshort => ?_⟩
      · rw [take_writing, List.drop_left' (CallResponse.length_bytes response)]
        exact hread
      · have hheader : CallResponse.size = 24 := rfl
        have hfew := length_fitting_lt (output.length - CallResponse.size) events (by omega)
        exact hcount.trans (Nat.mod_eq_of_lt (hlength ▸ hfew)) }

/-- Whatever a routine reports that is called as it should be, and whatever its threads do that are
finished before the call stops waiting: unless it unwinds past its boundary, the request succeeds,
and the buffer gives account of the outcome, of the value that was left, and of everything that was
said.  With a limit that no clock can time the request unwinds instead. -/
theorem control_accounts (hinput : CallRequest.ofBytes? input = some request)
    (hsize : CallResponse.size ≤ output.length) (h : InOrder w request d c k routine)
    (hperforms : Performs exec w request d (output.length - CallResponse.size) c k routine es result
      s₁)
    (hstays : (Boundary.caughtFor d result).payload? = none) :
    (startOf w request d (output.length - CallResponse.size) c k).world.valueIn w.nextFilament
      = some request.value ∧
    (k.joinLimit.Timed →
      ∃ (done : Completion) (response : CallResponse) (o : Outcome) (v : UInt64) (w' : World ρ ε),
        control exec ControlCode.call.code input output w = (.ok (.ok done), w') ∧
        IsGreatest (insert (Boundary.caughtFor d result).toOutcome (outcomes .completed s₁.workers))
          o ∧
        s₁.world.valueIn w.nextFilament = some v ∧ Accounts output es o v done response) ∧
    (¬ k.joinLimit.Timed → ∃ w',
      (control exec ControlCode.call.code input output).attempt w
        = (.ok (.error untimed), w')) := by
  refine ⟨valueIn_startOf .., fun hlimit => ?_, fun hlimit => ?_⟩
  · obtain ⟨e, o, v, w₁, hcaught, hat, hworst, hvalue, -, hch, -⟩ :=
      attempt_callAt_performs h hlimit hperforms
    rw [← hcaught] at hstays ⊢
    have hanswer : e.answer (.ok (resultFor o v) : Except ControlError CallResult)
        = .ok (.ok (resultFor o v)) := by
      rw [Exit.answer, hstays]
    rw [hanswer] at hat
    have hcontrol :=
      control_call_eq hinput h.address h.dispositions hsize (Flow.of_attempt_ok hat) hch
    exact ⟨_, _, o, v, _, hcontrol, hworst, hvalue, accounts_writing hsize _ o v⟩
  · obtain ⟨w', hcontrol, -⟩ := attempt_control_untimed hinput hsize h hlimit hperforms
    exact ⟨w', hcontrol⟩

/-- The sink of a driver that connected first. -/
def sink : Sink := ⟨Sink.version₃, 0⟩

/-- The connection of a driver that has a routine, whose threads are waited for so long. -/
def depotWith (joinLimit : Duration) : Connection Unit where
  address := 8
  routines := ⟨#[⟨"Depot", #[⟨.testCase, "Errand", ()⟩]⟩]⟩
  registry := 0
  sinkVersion := Sink.version₃
  joinLimit := joinLimit

/-- The same with the usual limit. -/
def depot : Connection Unit := depotWith (.ofSeconds 60)

/-- A world with such a driver. -/
def depotWorld {ε : Type} (limit : Duration) (store : ε) : World Unit ε where
  roster := { registries := ⟨#[{ kind := .driver }]⟩ }
  device := { connections := ⟨#[depotWith limit]⟩, entries := [(8, 0)] }
  store := store

/-- A request to call the routine. -/
def errandRequest : CallRequest := ⟨8, 0, 0, 0, 0, 5⟩

section

variable {ε : Type} (limit : Duration) (store : ε)

lemma inOrder_errand : InOrder (depotWorld limit store) errandRequest ⟨.proceed, .proceed⟩ 0
    (depotWith limit) () where
  address := by decide
  dispositions := rfl
  serves := ⟨rfl, rfl, rfl, Nat.zero_lt_one, rfl⟩
  routine := rfl
  thread := ⟨_, rfl⟩
  free := ⟨{ kind := .driver }, rfl, rfl, by decide⟩

/-- The routine begins. -/
def errandStart : State Unit ε :=
  startOf (depotWorld limit store) errandRequest ⟨.proceed, .proceed⟩ 100 0 (depotWith limit)

lemma reporting_errand : Reporting 0 0 limit 0 0 (errandStart limit store) :=
  reporting_begun (w := admitted (depotWorld limit store) ⟨.proceed, .proceed⟩ 100 0) Nat.zero_lt_one
    (inOrder_errand limit store).free rfl (fun _ ha => nomatch ha)

end

/-! ### A parcel that is delivered late -/

/-- A routine that logs something, leaves the rest to a child, and leaves another value and another
level. -/
def errand : Act Unit (Option Child.Ticket) Unit := do
  sink.log "packed"
  match ← Child.start 0 with
  | .error _ => return ()
  | .ok child =>
    Flow.change fun w => { w with store := some child }
    let _ ← sink.setValue .ordinary 7
    let _ ← raiseLevel .dispatch

/-- The child logs something and ends, but not before the calling thread is back at its level. -/
def delivery : Act Unit (Option Child.Ticket) Unit := do
  if (← level) = .passive then
    match ← Flow.see World.store with
    | none => return ()
    | some child =>
      let _ ← Child.finish child (sink.log "delivered")

/-- What is kept in the store is not heard. -/
lemma reporting_store {s : State Unit (Option Child.Ticket)} {limit : Duration}
    (hs : Reporting 0 0 limit 0 0 s) (store : Option Child.Ticket) :
    ∃ s₁,
      Does 0 0 limit 0 0 (Flow.change fun w : World Unit _ => { w with store }) s [] (.ok ()) s₁ ∧
      Reporting 0 0 limit 0 0 s₁ ∧ s₁.workers = s.workers := by
  have hdoes : Does 0 0 limit 0 0 (Flow.change fun w : World Unit _ => { w with store }) s []
      (.ok ()) { s with world := { s.world with store } } :=
    .of_spares hs.there rfl (.of_quiet ⟨rfl, rfl, rfl⟩) (.of_eq rfl rfl) rfl
  exact ⟨_, hdoes, hdoes.reporting hs hs.adopts, rfl⟩

/-- The world at the start of the routine. -/
def packing : World Unit (Option Child.Ticket) := (errandStart (.ofSeconds 60) none).world

/-- The world at its end. -/
def packed : World Unit (Option Child.Ticket) := (errand.attempt packing).2

/-- The world when the routine is out of its boundary. -/
def left : World Unit (Option Child.Ticket) :=
  (Boundary.leave 0 (.ownMain 0) false (.ok ()) packed).2

/-- The world when the calling thread is back at its level. -/
def returned : World Unit (Option Child.Ticket) := (restoreLevel 0 .passive left).2

/-- The child finds room. -/
lemma start_packing :
    ((Child.start 0).attempt ((sink.log "packed").attempt packing).2).1
      = .ok (.ok (.ok ⟨1, 0, 0⟩)) := rfl

lemma left_level : packed.current = 0 ∧ left.current = 0 ∧ left.running.level = .dispatch :=
  ⟨rfl, rfl, rfl⟩

lemma returned_parcel : returned.running.level = .passive ∧ returned.store = some ⟨1, 0, 0⟩ ∧
    returned.current = 0 ∧ returned.roster.adoptions = [] := ⟨rfl, rfl, rfl, rfl⟩

lemma valueIn_delivery : (delivery.attempt returned).2.valueIn 0 = some 7 := by
  decide +kernel

/-- The routine leaves its child behind. -/
lemma does_errand : ∃ s₁,
    Does 0 0 (.ofSeconds 60) 0 0 errand (errandStart (.ofSeconds 60) none) [.note "packed"]
      (.ok ()) s₁ ∧
    Reporting 0 0 (.ofSeconds 60) 0 0 s₁ ∧ s₁.workers = [⟨0, .runs⟩, ⟨1, .runs⟩] := by
  have hs₀ := reporting_errand (.ofSeconds 60) (none : Option Child.Ticket)
  obtain ⟨s₁, hlog, hs₁, hworkers₁⟩ := hs₀.log sink rfl "packed"
  obtain ⟨started, s₂, hstart, hs₂, hworkers₂, hticket⟩ := hs₁.start
  have hstarted := start_packing
  rw [packing, hlog.attempt, hstart.attempt] at hstarted
  obtain rfl : started = .ok ⟨1, 0, 0⟩ := by
    cases hstarted
    rfl
  have hsize : 1 = s₁.world.threads.items.size := congrArg Child.Ticket.thread (hticket _ rfl)
  rw [hworkers₁, ← hsize] at hworkers₂
  obtain ⟨s₃, hkeep, hs₃, hworkers₃⟩ := reporting_store hs₂ (some ⟨1, 0, 0⟩)
  obtain ⟨s₄, hset, hs₄, hworkers₄, -⟩ := hs₃.setValue sink rfl (by decide) .ordinary 7
  obtain ⟨previous, s₅, hraise, hs₅, hworkers₅, -⟩ := hs₄.raiseLevel .dispatch
  have hlast := hraise.bind (k := fun _ => pure ()) (.pure hs₅.there ())
  have hrest := hkeep.bind (k := fun _ => do
    let _ ← sink.setValue .ordinary 7
    let _ ← raiseLevel .dispatch) (hset.bind (k := fun _ => do let _ ← raiseLevel .dispatch) hlast)
  have hworkers : s₅.workers = [⟨0, .runs⟩, ⟨1, .runs⟩] := by
    rw [hworkers₅, hworkers₄, hworkers₃, hworkers₂]
    rfl
  exact ⟨s₅, hlog.bind (hstart.bind hrest), hs₅, hworkers⟩

section

variable {s : State Unit (Option Child.Ticket)}

/-- While the level is raised, there is no delivery. -/
lemma does_delivery_raised (hs : s.workers[0]? = some ⟨s.world.current, .runs⟩)
    (hlevel : s.world.running.level = .dispatch) :
    Does 0 0 (.ofSeconds 60) 0 0 delivery s [] (.ok ()) s := by
  refine .of_spares hs (Flow.attempt_ok ?_) (.of_quiet (.refl _)) (.refl _) rfl
  have hraised : level s.world = (.ok .dispatch, s.world) :=
    congrArg (fun l => (Except.ok l, s.world)) hlevel
  exact Flow.bind_ok hraised

/-- Afterwards the child delivers and ends. -/
lemma does_delivery (hs : Reporting 0 0 (.ofSeconds 60) 0 0 s) (hworld : s.world = returned)
    (hworkers : s.workers = [⟨0, .runs⟩, ⟨1, .runs⟩]) : ∃ s₁ e,
    Does 0 0 (.ofSeconds 60) 0 0 delivery s [.note "delivered"] (.ok ()) s₁ ∧
    e.result = .ok () ∧ s₁.workers = [⟨0, .runs⟩, ⟨1, .done (.child e)⟩] := by
  obtain ⟨left, e, workers, s₁, hfinish, hs₁, hresult, rfl, hworkers₁⟩ :=
    hs.finish (t := 1) (j := 0) (P := (· = s.workers)) (by rw [hworkers]; rfl) (by decide)
      fun s hs hworkers => by
        obtain ⟨s', hdoes, hs', hworkers'⟩ := hs.log sink rfl "delivered"
        exact ⟨s', hdoes, hs'.adopts, by rw [hworkers'], hworkers'.trans hworkers⟩
  obtain ⟨hlevel, hstore, -⟩ := returned_parcel
  have hdelivery : delivery s.world = (do
      let _ ← Child.finish ⟨1, 0, 0⟩ (sink.log "delivered") : Act Unit (Option Child.Ticket) Unit)
        s.world := by
    have hpassive : level s.world = (.ok .passive, s.world) :=
      congrArg (fun l => (Except.ok l, s.world)) (hworld ▸ hlevel)
    have hparcel : Flow.see World.store s.world = (.ok (some ⟨1, 0, 0⟩), s.world) :=
      congrArg (fun p => (Except.ok p, s.world)) (hworld ▸ hstore)
    exact (Flow.bind_ok hpassive).trans (Flow.bind_ok hparcel)
  have hdoes := hfinish.bind (k := fun _ => pure ()) (.pure hs₁.there ())
  refine ⟨s₁, e, ⟨?_, hdoes.heard, hdoes.current, hdoes.there⟩, hresult, ?_⟩
  · rw [Flow.attempt, hdelivery, ← Flow.attempt]
    exact hdoes.attempt
  · rw [hworkers₁, hworkers]
    rfl

end

/-- The call goes its way: the child delivers while the call waits for it. -/
lemma performs_errand : ∃ s₁,
    Performs ⟨fun _ => errand, delivery⟩ (depotWorld (.ofSeconds 60) none) errandRequest
      ⟨.proceed, .proceed⟩ 100 0 depot ()
      [.note "packed", .note "Routine returned at DISPATCH_LEVEL, restoring PASSIVE_LEVEL",
        .note "delivered"] (.ok ()) s₁ ∧
    s₁.world.valueIn 0 = some 7 ∧ ∀ q, Noted s₁.workers q → q = .completed := by
  let w : World Unit (Option Child.Ticket) :=
    admitted (depotWorld (.ofSeconds 60) none) ⟨.proceed, .proceed⟩ 100 0
  have hch : w.observers.get? 0 = some (.channel (.make ⟨.proceed, .proceed⟩ 100)) := rfl
  obtain ⟨s₁, hruns, hs₁, hworkers₁⟩ := does_errand
  obtain ⟨hcurrent, hcurrent', hlevel⟩ := left_level
  obtain ⟨-, -, hcurrent'', hadoptions⟩ := returned_parcel
  have hpacked : s₁.world = packed := (congrArg Prod.snd hruns.attempt).symm
  -- the routine is over, and its child is not
  let s₂ : State Unit (Option Child.Ticket) := s₁.leaving 0 false (.ok ())
  have hleft : s₂.world = left := by
    show (Boundary.leave 0 (.ownMain s₁.world.current) false (.ok ()) s₁.world).2 = left
    rw [hpacked, hcurrent]
    rfl
  obtain ⟨-, hheard₂, -⟩ := leave_begun (w := w) hch hruns false
  have hturn : Does 0 0 (.ofSeconds 60) 0 0 delivery s₂ [] (.ok ()) s₂ :=
    does_delivery_raised (by rw [hleft, hcurrent']; exact hworkers₁ ▸ rfl) (hleft ▸ hlevel)
  -- the level is restored, and the child delivers
  let s₃ : State Unit (Option Child.Ticket) := s₂.restoring 0 .passive
  have hreturned : s₃.world = returned := by
    show (restoreLevel 0 .passive s₂.world).2 = returned
    rw [hleft]
    rfl
  have hrestoring : _ ∧ Heard 0 0 (.ofSeconds 60) 0 s₂ _ s₃ ∧ _ :=
    restoring_heard (hheard₂.channel_eq hch) .passive
  have hs₃ : Reporting 0 0 (.ofSeconds 60) 0 0 s₃ :=
    (reporting_errand (.ofSeconds 60) none).heard (hheard₂.trans hrestoring.2.1)
      (by rw [hreturned, hcurrent'']; exact hworkers₁ ▸ rfl)
      (by rw [hreturned, Roster.AdoptsNobody, hadoptions]; exact fun _ => List.not_mem_nil.elim)
  obtain ⟨s₄, e, hwait, hresult, hworkers₄⟩ := does_delivery hs₃ hreturned hworkers₁
  have hfinished : ∀ i p, s₄.workers[i + 1]? = some p → p.phase.finished = true := by
    intro i p hp
    rw [hworkers₄] at hp
    cases i with
    | zero =>
      cases hp
      rfl
    | succ i => cases hp
  have hcourse : Course ⟨fun _ => errand, delivery⟩ 0 (.ofSeconds 60) 0 5 () w _ _ s₄ :=
    .mk hruns hturn hwait hfinished
  rw [hleft, hlevel] at hcourse
  refine ⟨s₄, hcourse, ?_, ?_⟩
  · have hvalue := valueIn_delivery
    rwa [← hreturned, hwait.attempt] at hvalue
  · rintro q ⟨p, hp, hnote⟩
    rw [hworkers₄] at hp
    rcases List.mem_pair.mp hp with rfl | rfl
    · cases hnote
    · exact e.note_completed_iff.mpr (.inl hresult) q hnote

/-- Of what was said in this call, what the child delivers does not fit. -/
theorem control_accounts_errand : ∃ done response w',
    control ⟨fun _ => errand, delivery⟩ ControlCode.call.code errandRequest.bytes
      (List.replicate 124 255) (depotWorld (.ofSeconds 60) none) = (.ok (.ok done), w') ∧
    Accounts (List.replicate 124 255) [.note "packed",
      .note "Routine returned at DISPATCH_LEVEL, restoring PASSIVE_LEVEL", .note "delivered"]
      .completed 7 done response ∧
    response.truncated = true := by
  obtain ⟨s₁, hperforms, hseven, hnoted⟩ := performs_errand
  have hlength : (List.replicate 124 (255 : UInt8)).length = 124 := List.length_replicate
  have hroom : (List.replicate 124 (255 : UInt8)).length - CallResponse.size = 100 := by
    rw [hlength]
    rfl
  rw [← hroom] at hperforms
  have hlimit : depot.joinLimit.Timed := by decide
  obtain ⟨-, htimed, -⟩ := control_accounts (CallRequest.ofBytes?_bytes errandRequest)
    (by rw [hlength]; decide) (inOrder_errand (.ofSeconds 60) none) hperforms rfl
  obtain ⟨done, response, o, v, w', hcontrol, hworst, hvalue, haccounts⟩ := htimed hlimit
  obtain rfl : (7 : UInt64) = v := Option.some.inj (hseven.symm.trans hvalue)
  obtain rfl : o = .completed := by
    rcases hworst.1 with h | h | h
    · exact h
    · exact h
    · exact hnoted o h
  refine ⟨done, response, w', hcontrol, haccounts, haccounts.truncated_iff.mpr ?_⟩
  rw [hroom]
  decide +kernel

/-- A call is in order, and its routine returns at once.  But no clock can time the wait for nobody
that follows, and the request does not succeed. -/
theorem untimed_call_unwinds : ∃ s₁ w',
    InOrder (depotWorld eternity ()) errandRequest ⟨.proceed, .proceed⟩ 0 (depotWith eternity) () ∧
    Performs ⟨fun _ => return (), return ()⟩ (depotWorld eternity ()) errandRequest
      ⟨.proceed, .proceed⟩ 100 0 (depotWith eternity) () [] (.ok ()) s₁ ∧
    (control ⟨fun _ => return (), return ()⟩ ControlCode.call.code errandRequest.bytes
      (List.replicate 124 255)).attempt (depotWorld eternity ()) = (.ok (.error untimed), w') := by
  let w : World Unit Unit := admitted (depotWorld eternity ()) ⟨.proceed, .proceed⟩ 100 0
  have hch : w.observers.get? 0 = some (.channel (.make ⟨.proceed, .proceed⟩ 100)) := rfl
  have hruns : Does 0 0 eternity 0 0 (return ()) (begun w 0 0 5) [] (.ok ()) (begun w 0 0 5) :=
    .pure rfl ()
  have hperforms : Performs ⟨fun _ => return (), return ()⟩ (depotWorld eternity ()) errandRequest
      ⟨.proceed, .proceed⟩ 100 0 (depotWith eternity) () [] (.ok ()) _ :=
    Course.alone hch hruns fun i p hp => nomatch hp
  have hlength : (List.replicate 124 (255 : UInt8)).length = 124 := List.length_replicate
  have hroom : (List.replicate 124 (255 : UInt8)).length - CallResponse.size = 100 := by
    rw [hlength]
    rfl
  rw [← hroom] at hperforms
  obtain ⟨w', hcontrol, -⟩ := attempt_control_untimed (CallRequest.ofBytes?_bytes errandRequest)
    (by rw [hlength]; decide) (inOrder_errand eternity ()) (by decide) hperforms
  exact ⟨_, w', inOrder_errand eternity (), hroom ▸ hperforms, hcontrol⟩

end Testbench.Driver
