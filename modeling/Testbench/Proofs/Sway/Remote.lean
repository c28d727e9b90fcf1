import Testbench.Proofs.Remote.Client
import Testbench.Proofs.Response
import Testbench.Proofs.Sway.Worlds

/-!
# Calls with more room and with less

A call into a driver comes to the same in alike worlds, however much room there is for its events: the
response says the same of the outcome and has the same value.  So a remote routine ends in the same
way whatever buffer its client has.  What it passes on to its observer may differ, and that is nothing
to worlds that are alike.
-/

namespace Testbench

open Testbench.Flow World

/-! ### Responses -/

/-- Responses that say the same, but for events. -/
structure CallResponse.SameOutcome (r s : CallResponse) : Prop where
  completed_eq : r.completed = s.completed
  aborts_eq : r.aborts = s.aborts
  value_eq : r.value = s.value

/-- Completed calls that both wrote a response, and these say the same but for events. -/
def Completion.SameOutcome (done done' : Completion) : Prop :=
  ∃ r s, CallResponse.ofBytes? (done.output.take done.written) = some r ∧
    CallResponse.ofBytes? (done'.output.take done'.written) = some s ∧ r.SameOutcome s

namespace World

variable {ρ ε : Type} {exec : Routines ρ ε}

/-- Calls with any two buffers that have room for a response. -/
theorem matches_callRoutine (hexec : ∀ routine, Blind (exec routine)) (hothers : Blind exec.others)
    (input : List UInt8) {output output' : List UInt8} (h : CallResponse.size ≤ output.length)
    (h' : CallResponse.size ≤ output'.length) :
    Matches Alike (EndsAlike Completion.SameOutcome) (Driver.callRoutine exec input output)
      (Driver.callRoutine exec input output') := by
  rw [Driver.callRoutine, Driver.callRoutine]
  rcases CallRequest.ofBytes? input with - | request
  · exact matches_pure (.error _)
  simp only []
  split
  · exact matches_pure (.error _)
  rcases Driver.dispositionsOf request with code | d
  · exact matches_pure (.error _)
  simp only [if_neg (Nat.not_lt.mpr h), if_neg (Nat.not_lt.mpr h')]
  refine Tracks.bind (tracks_newObserver (.channel rfl)) fun channel => ?_
  refine Tracks.bind (Blind.closed.callAt hexec hothers request channel).tracks fun result => ?_
  cases result with
  | error why => exact matches_pure (.error why)
  | ok result =>
    have htake : Matches Alike (fun _ _ => True) (Driver.takeEvents channel : Act ρ ε EventBuffer)
        (Driver.takeEvents channel) :=
      matches_alike fun S => (matches_takeEvents channel).mono fun _ _ _ => trivial
    have hresponse (events : EventBuffer) (output : List UInt8) : CallResponse.ofBytes?
        ((Completion.writing .success ((Driver.responseOf result events).bytes ++ events.bytes)
            output).output.take
          (Completion.writing .success ((Driver.responseOf result events).bytes ++ events.bytes)
            output).written) = some (Driver.responseOf result events) := by
      rw [Driver.take_writing]
      exact CallResponse.ofBytes?_bytes _ _
    refine htake.bind fun events events' _ => matches_pure (.ok ?_)
    exact ⟨_, _, hresponse events output, hresponse events' output', ⟨rfl, rfl, rfl⟩⟩

/-! ### What is told to one of two observers -/

/-- Something that returns, and that makes no difference to a world that is alike another one. -/
def Mute (m : Act ρ ε Unit) : Prop := ∀ x y, Alike x y → (m x).1 = .ok () ∧ Alike (m x).2 y

lemma Mute.pure : Mute (Pure.pure () : Act ρ ε Unit) := fun _ _ hxy => ⟨rfl, hxy⟩

lemma Mute.bind {m n : Act ρ ε Unit} (hm : Mute m) (hn : Mute n) : Mute (do m; n) := by
  intro x y hxy
  obtain ⟨hend, hxy'⟩ := hm x y hxy
  rw [bind_ok (ends_at hend)]
  exact hn _ y hxy'

/-- Two things of which neither makes a difference do not make one together. -/
lemma Mute.tracks {m n : Act ρ ε Unit} (hm : Mute m) (hn : Mute n) : Tracks Alike m n := by
  intro x y hxy
  obtain ⟨hx, hxy'⟩ := hm x y hxy
  obtain ⟨hy, hxy''⟩ := hn y _ hxy'.symm
  rw [hx, hy]
  exact ⟨.ok rfl, hxy''.symm⟩

/-- An event more is nothing to worlds that are alike. -/
lemma Alike.report {x y : World ρ ε} (hxy : Alike x y) (o : ObserverId) (i : Identity) (e : Event) :
    Alike (World.report o i e x).2 y where
  rest := by rw [hxy.rest]; rfl
  similar o' := by
    have hget := Pool.get?_update x.observers o Disposition.proceed (·.report i e) o'
    have hsimilar := hxy.similar o'
    rw [World.report, tell, step_apply]
    simp only [hget]
    split
    · generalize x.observers.get? o' = a, y.observers.get? o' = b at hsimilar
      cases hsimilar with
      | none => exact .none
      | some hab => exact .some (hab.report_left i e)
    · exact hsimilar

lemma mute_passing (m : Member) (e : Event) : Mute (do
    let _ ← World.report (← observerOf m.filament) m.identity e : Act ρ ε Unit) := by
  intro x y hxy
  exact ⟨rfl, hxy.report _ _ _⟩

end World

/-! ### Remote routines -/

/-- The client with another buffer for events. -/
def Client.withBuffer (c : Client) (size : Nat) : Client := { c with eventBuffer := size }

namespace RemoteRoutine

variable {ρ ε : Type} {inner : Routines ρ ε}

/-- The routine as a client calls it that has another buffer for events. -/
def withBuffer (r : RemoteRoutine) (size : Nat) : RemoteRoutine :=
  { r with client := r.client.withBuffer size }

lemma mute_note (m : Member) (message : String) : Mute (note m message : Act ρ ε Unit) :=
  mute_passing m (.note message)

lemma mute_forward (m : Member) (events : List Record.Placed) :
    Mute (forward m events : Act ρ ε Unit) := by
  induction events with
  | nil => exact .pure
  | cons p rest ih => exact (mute_passing m p.event).bind ih

/-- The events of a response, and what is said of those that are missing. -/
lemma tracks_deliver (m : Member) {r s : CallResponse} (hvalue : r.value = s.value)
    (events events' : List UInt8) :
    Tracks Alike (deliver m r events : Act ρ ε Unit) (deliver m s events') := by
  have hlast (r : CallResponse) : Mute (if r.truncated then
      note m ("Event buffer full, only the first " ++ toString r.eventCount.toNat
        ++ " events were delivered") else Pure.pure () : Act ρ ε Unit) := by
    split
    · exact mute_note m _
    · exact .pure
  rw [deliver, deliver, hvalue]
  -- both hear of their records, and of what is wrong with them, but that makes no difference
  refine Tracks.bind (Blind.closed.changeFilament m.filament _).tracks fun _ => Mute.tracks ?_ ?_
  all_goals
    refine (mute_forward m _).bind ?_
    generalize (Record.readAll _).failure = failure
    cases failure with
    | some why => exact (mute_note m _).bind (hlast _)
    | none => exact hlast _

/-- The driver gives the same answer, whatever buffer it is called with. -/
lemma matches_callDriver (hinner : ∀ routine, Blind (inner routine)) (hothers : Blind inner.others)
    (r : RemoteRoutine) (size : Nat) (m : Member) :
    Matches Alike (EndsAlike CallResponse.SameOutcome) (r.callDriver inner m)
      ((r.withBuffer size).callDriver inner m) := by
  refine Tracks.bind (Blind.closed.request r m).tracks fun request => ?_
  have hcall := matches_callRoutine hinner hothers request.bytes
    (Driver.le_length_blankBuffer r.client.eventBuffer) (Driver.le_length_blankBuffer size)
  refine Matches.bind hcall fun result result' hresult => ?_
  cases hresult with
  | error why => exact matches_pure (.error _)
  | @ok done done' hdone =>
    obtain ⟨response, response', hresponse, hresponse', hsame⟩ := hdone
    simp only [hresponse, hresponse']
    refine Tracks.bind (tracks_deliver m hsame.value_eq _ _) fun _ => ?_
    exact matches_pure (.ok hsame)

/-- Remote routines end in the same way whatever buffer their client has. -/
theorem tracks_run (hinner : ∀ routine, Blind (inner routine)) (hothers : Blind inner.others)
    (r : RemoteRoutine) (size : Nat) :
    Tracks Alike (r.run inner) ((r.withBuffer size).run inner) := by
  refine Tracks.bind (Blind.closed.membership r.client.registry false).tracks fun found => ?_
  cases found with
  | error why => exact tracks_unwind _
  | ok m =>
    refine (matches_callDriver hinner hothers r size m).bind fun result result' hresult => ?_
    cases hresult with
    | error why => exact Tracks.bind ((mute_note m _).tracks (mute_note m _)) fun _ => tracks_unwind _
    | ok hsame =>
      simp only [hsame.aborts_eq, hsame.completed_eq]
      split
      · exact tracks_unwind _
      · split
        · exact tracks_unwind _
        · exact tracks_pure _

end RemoteRoutine

end Testbench
