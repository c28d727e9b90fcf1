import Testbench.Proofs.Lawful
import Testbench.Proofs.Run.Kept

/-!
# Channels keep within their room

The events of a call are copied behind the response, into as much of the buffer as the channel of the
call was made for.  That they fit is up to the channel, and so to everybody who can reach it: the
boundary of the routine, the driver that is called, and the routine.  `Confined` is what is asked of
routines here, and no more than the channel itself sees to: it keeps its capacity and what it holds
within it.  Everything that observers are asked by contract is confined, and so is everything
lawful.
-/

namespace Testbench

open Testbench.Flow

/-- A channel that holds at most what it was made for. -/
structure Channel.Fits (capacity : Nat) (c : Channel) : Prop where
  capacity_eq : c.buffer.capacity = capacity
  size_le : c.buffer.data.size ≤ capacity

namespace Channel.Fits

variable {capacity : Nat} {c : Channel}

lemma make (d : Dispositions) (capacity : Nat) : Fits capacity (make d capacity) :=
  ⟨rfl, Nat.zero_le _⟩

/-- There is as much room for other events once these are taken out. -/
lemma take (h : c.Fits capacity) : Fits capacity c.take.2 := ⟨h.capacity_eq, Nat.zero_le _⟩

/-- An event is appended only if there is room for it. -/
lemma queue (h : c.Fits capacity) (e : Event) : Fits capacity (c.queue e).2 := by
  obtain ⟨rfl, hsize⟩ := h
  by_cases hroom : c.buffer.capacity - c.buffer.data.size < (Record.encode e).length
  · rw [Channel.queue, EventBuffer.queue, if_pos hroom]
    exact ⟨rfl, hsize⟩
  · rw [Channel.queue, EventBuffer.queue, if_neg hroom]
    refine ⟨rfl, ?_⟩
    rw [← Array.length_toList, Array.toList_appendList, List.length_append, Array.length_toList]
    omega

end Channel.Fits

/-- A way to deal with an observer that leaves a channel a channel, within its capacity. -/
def Observer.Confines {α : Type} (f : Observer → α × Observer) : Prop :=
  ∀ (capacity : Nat) (c : Channel), c.Fits capacity →
    ∃ c', (f (.channel c)).2 = .channel c' ∧ c'.Fits capacity

/-- Nobody asks more of a channel than to take an event. -/
lemma Observer.confines_asked {α : Type} {fallback : α} {f : Observer → α × Observer}
    (hf : Observer.Asked fallback f) : Observer.Confines f := by
  intro capacity c hc
  cases hf with
  | report i e => exact ⟨_, rfl, hc.queue e⟩
  | queue e => exact ⟨_, rfl, hc.queue e⟩
  | query kind => exact ⟨c, rfl, hc⟩
  | threadStart => exact ⟨c, rfl, hc⟩
  | childStarts i => exact ⟨c, rfl, hc⟩
  | childFinished i => exact ⟨c, rfl, hc⟩
  | unhandledException message => exact ⟨c, rfl, hc⟩

namespace World

variable {ρ ε α β : Type} {o : ObserverId} {capacity : Nat} {w w' : World ρ ε} {m : Act ρ ε α}

/-- The observer of this name is a channel that was made for so many bytes. -/
def HasRoom (o : ObserverId) (capacity : Nat) (w : World ρ ε) : Prop :=
  ∃ c, w.observers.get? o = some (.channel c) ∧ c.Fits capacity

/-- Something that leaves every channel within its capacity, unless it runs out of room itself. -/
def Confined (m : Act ρ ε α) : Prop := ∀ o capacity, Keeps (HasRoom o capacity) m

namespace Confined

lemma of_snd (h : ∀ o capacity w, HasRoom o capacity w → HasRoom o capacity (m w).2) :
    Confined m := by
  intro o capacity w result w' hw hrun
  have hsnd : w' = (m w).2 := by rw [← attempt_snd m w, hrun]
  exact hsnd ▸ h o capacity w hw

/-- What has nothing to do with observers. -/
lemma of_observers (h : ∀ w, (m w).2.observers = w.observers) : Confined m :=
  of_snd fun o capacity w hw => by rwa [HasRoom, h w]

lemma attempt (hm : Confined m) : Confined m.attempt := by
  intro o capacity w result w' hw hrun
  rcases result with payload | result
  · exact nomatch attempt_error (of_attempt_unwound hrun)
  · exact hm o capacity w result w' hw (of_attempt_ok hrun)

lemma tell (o : ObserverId) (fallback : α) {f : Observer → α × Observer}
    (hf : Observer.Confines f) : Confined (World.tell o fallback f : Act ρ ε α) := by
  refine of_snd ?_
  rintro o' capacity w ⟨c, hc, hfits⟩
  rw [World.tell, step_apply, HasRoom]
  simp only [Pool.get?_update, hc, Option.map_some]
  split
  · obtain ⟨c', hc', hfits'⟩ := hf capacity c hfits
    exact ⟨c', congrArg some hc', hfits'⟩
  · exact ⟨c, rfl, hfits⟩

/-- What is made of confined things is confined, and so is a call of confined routines. -/
theorem closed : Closed (ρ := ρ) (ε := ε) Confined where
  apart hm := of_observers hm.observers_eq
  tell hf o := tell o _ (Observer.confines_asked hf)
  bind hm hk o capacity := (hm o capacity).bind fun a => hk a o capacity
  attempt := attempt

lemma newObserver (x : Observer) : Confined (World.newObserver x : Act ρ ε ObserverId) :=
  of_snd fun _ _ _ ⟨c, hc, hfits⟩ => ⟨c, Pool.get?_add_of_some hc x, hfits⟩

lemma takeEvents (o : ObserverId) : Confined (Driver.takeEvents o : Act ρ ε EventBuffer) :=
  tell o _ fun _ _ hc => ⟨_, rfl, hc.take⟩

/-- A request that is made by the way has a channel of its own, and leaves the others alone. -/
lemma callRoutine {exec : Routines ρ ε} (hexec : ∀ routine, Confined (exec routine))
    (hothers : Confined exec.others) (input output : List UInt8) :
    Confined (Driver.callRoutine exec input output) := by
  have hclosed : Closed (ρ := ρ) (ε := ε) Confined := closed
  rw [Driver.callRoutine]
  split
  · exact hclosed.pure _
  split
  · exact hclosed.pure _
  split
  · exact hclosed.pure _
  split
  · exact hclosed.pure _
  refine hclosed.bind (newObserver _) fun channel => ?_
  refine hclosed.bind (hclosed.callAt hexec hothers _ channel) fun result => ?_
  cases result with
  | error why => exact hclosed.pure _
  | ok result => exact hclosed.bind (takeEvents channel) fun _ => hclosed.pure _

end Confined

/-- Everything lawful leaves channels within their capacity. -/
theorem Lawful.confined (hm : Lawful m) : Confined m :=
  hm.induct Confined.closed fun _ input output hexec hothers =>
    Confined.callRoutine hexec hothers input output

end World

end Testbench
