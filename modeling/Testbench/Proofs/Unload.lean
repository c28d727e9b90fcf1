import Mathlib.Logic.Relation
import Testbench.Driver.Control
import Testbench.Proofs.Device.Live
import Testbench.Proofs.Places
import Testbench.Proofs.World

/-!
# Calls and the departure of a driver

Any number of threads call routines of one driver, while the driver may let go of its connection at
any time.  A call holds the unload lock from before it looks whether the driver is there until it is
over; the driver takes the lock alone, and may do so only while no call holds it.  The steps of the
calls, of the driver and of everybody else come in any order.

What the steps do to the connection are the operations by which the connection counts its calls and
becomes unavailable.  What a routine does is left open: it may change the world as it likes, except
that it leaves the count of calls and the availability of the connection to those who own them.
-/

namespace Testbench.Unload

variable {ρ ε : Type}

/-- What a call comes to: the payload if its routine unwound past the boundary. -/
abbrev Result : Type := Except Payload (Except CallError CallResult)

/-- How far a call has come. -/
inductive Stage (ρ : Type)
  /-- It waits for the unload lock. -/
  | waits
  /-- It holds the lock. -/
  | entered
  /-- It found that the driver is gone. -/
  | refused
  /-- It found that the driver is there. -/
  | admitted
  /-- It found its routine, which runs. -/
  | runs (routine : ρ)
  /-- The routine ended, and the call waits for its threads. -/
  | joins (routine : ρ)
  /-- It has its result and still holds the lock. -/
  | ended (result : Result)
  /-- It gave the lock back. -/
  | done (result : Result)

namespace Stage

/-- Whether a call holds the unload lock. -/
def holdsLock : Stage ρ → Bool
  | waits | done _ => false
  | entered | refused | admitted | runs _ | joins _ | ended _ => true

/-- A call that found the driver there and has not given the lock back. -/
def Inside : Stage ρ → Prop
  | admitted | runs _ | joins _ | ended _ => True
  | waits | entered | refused | done _ => False

/-- A call that has not looked yet whether the driver is there. -/
def Unchecked : Stage ρ → Prop
  | waits | entered => True
  | refused | admitted | runs _ | joins _ | ended _ | done _ => False

/-- A call of which nothing comes but that the driver is gone. -/
def TurnedAway : Stage ρ → Prop
  | waits | entered | refused | done (.ok (.error .unavailable)) => True
  | admitted | runs _ | joins _ | ended _ | done _ => False

/-- A call whose routine or whose threads are at work. -/
def Working : Stage ρ → Prop
  | runs _ | joins _ => True
  | waits | entered | refused | admitted | ended _ | done _ => False

end Stage

lemma Stage.Working.holdsLock {σ : Stage ρ} (h : σ.Working) : σ.holdsLock = true := by
  cases σ <;> first | rfl | exact h.elim

lemma Stage.Working.inside {σ : Stage ρ} (h : σ.Working) : σ.Inside := by
  cases σ <;> trivial

lemma Stage.Inside.holdsLock {σ : Stage ρ} (h : σ.Inside) : σ.holdsLock = true := by
  cases σ <;> first | rfl | exact h.elim

/-- A call of a routine by its keys. -/
structure Call (ρ : Type) where
  fixture : UInt16
  routine : UInt16
  stage : Stage ρ

/-- How far the driver has come that lets go of its connection. -/
inductive Departure
  /-- It holds its handle. -/
  | holds
  /-- It holds the unload lock alone. -/
  | locked
  /-- It has made the connection unavailable. -/
  | cleared
  /-- It gave the lock back. -/
  | gone
deriving DecidableEq, Repr

/-- The driver holds the unload lock. -/
def Departure.Excludes (d : Departure) : Prop := d = locked ∨ d = cleared

/-- The world, the calls into one driver, and the driver. -/
structure State (ρ ε : Type) where
  world : World ρ ε
  calls : List (Call ρ) := []
  driver : Departure := .holds

/-- Changes a connection. -/
def modified (c : ConnectionId) (f : Connection ρ → Connection ρ) (w : World ρ ε) : World ρ ε :=
  { w with device := w.device.modify c f }

/-- Whatever happened, it left alone who holds the unload lock of a connection and whether the
connection is available. -/
def Untouched (c : ConnectionId) (w w' : World ρ ε) : Prop :=
  ∀ x, w.device.get? c = some x →
    ∃ x', w'.device.get? c = some x' ∧ x'.available = x.available ∧ x'.calls = x.calls

/-- What a call does next, up to the lock that others may hold. -/
inductive Goes (c : ConnectionId) : Call ρ → World ρ ε → Stage ρ → World ρ ε → Prop
  | enters {f r w} : Goes c ⟨f, r, .waits⟩ w .entered (modified c .enter w)
  | refused {f r w} (h : w.device.isAvailable c = false) : Goes c ⟨f, r, .entered⟩ w .refused w
  | admitted {f r w} (h : w.device.isAvailable c = true) : Goes c ⟨f, r, .entered⟩ w .admitted w
  | unknown {f r w x} (hx : w.device.get? c = some x) (h : x.routines.routine? f r = none) :
      Goes c ⟨f, r, .admitted⟩ w (.ended (.ok (.error (.noRoutine f r)))) w
  | resolved {f r w x q} (hx : w.device.get? c = some x) (h : x.routines.routine? f r = some q) :
      Goes c ⟨f, r, .admitted⟩ w (.runs q) w
  | works {p w w'} (hp : p.stage.Working) (h : Untouched c w w') : Goes c p w p.stage w'
  | joins {f r w q} : Goes c ⟨f, r, .runs q⟩ w (.joins q) w
  | ends {p w} (result : Result) (hp : p.stage.Working) : Goes c p w (.ended result) w
  | leaves {f r w result} :
      Goes c ⟨f, r, .ended result⟩ w (.done result) (modified c .leave w)
  | leavesRefused {f r w} :
      Goes c ⟨f, r, .refused⟩ w (.done (.ok (.error .unavailable))) (modified c .leave w)

/-- Who takes a step. -/
inductive Mover
  /-- The call in a place. -/
  | call (i : Nat)
  | driver
  | others
deriving DecidableEq, Repr

/-- One step: of a call, which does not take the lock while the driver holds it, of the driver, which
takes the lock only while no call holds it, or of anybody else. -/
inductive Step (c : ConnectionId) : State ρ ε → Mover → State ρ ε → Prop
  | call {s i p σ w} (hi : s.calls[i]? = some p) (hlock : p.stage = .waits → ¬ s.driver.Excludes)
      (h : Goes c p s.world σ w) :
      Step c s (.call i) { s with world := w, calls := s.calls.set i { p with stage := σ } }
  | locks {s} (hd : s.driver = .holds)
      (h : ∀ x, s.world.device.get? c = some x → x.isIdle = true) :
      Step c s .driver { s with driver := .locked }
  | clears {s} (hd : s.driver = .locked) :
      Step c s .driver { s with world := modified c .close s.world, driver := .cleared }
  | unlocks {s} (hd : s.driver = .cleared) : Step c s .driver { s with driver := .gone }
  | arrives {s f r} : Step c s .others { s with calls := s.calls ++ [⟨f, r, .waits⟩] }
  | elsewhere {s w} (h : Untouched c s.world w) : Step c s .others { s with world := w }

/-- Any number of steps of anybody. -/
def Runs (c : ConnectionId) : State ρ ε → State ρ ε → Prop :=
  Relation.ReflTransGen fun s s' => ∃ m, Step c s m s'

/-- A connection that its driver holds and nobody calls. -/
structure Opening (c : ConnectionId) (s : State ρ ε) : Prop where
  connection : ∃ x, s.world.device.get? c = some x ∧ x.available = true ∧ x.calls = 0
  calls : s.calls = []
  driver : s.driver = .holds

/-- How many calls hold the unload lock. -/
def State.inCount (s : State ρ ε) : Nat := s.calls.countP (·.stage.holdsLock)

/-- The count of calls is right, the driver holds the lock only while no call does, and whoever is
inside found a driver that is still there. -/
structure Sound (c : ConnectionId) (s : State ρ ε) : Prop where
  counted : ∃ x, s.world.device.get? c = some x ∧ x.calls = s.inCount
  alone : s.driver.Excludes → s.inCount = 0
  inside : ∀ p ∈ s.calls, p.stage.Inside → s.world.device.isAvailable c = true

variable {c : ConnectionId} {s s' : State ρ ε} {w w' : World ρ ε} {i : Nat} {p : Call ρ}
  {σ : Stage ρ} {x : Connection ρ}

/-! ### The connection -/

lemma isAvailable_eq (hx : w.device.get? c = some x) : w.device.isAvailable c = x.available := by
  rw [Device.isAvailable, hx]
  rfl

lemma isAvailable_modified (f : Connection ρ → Connection ρ)
    (hf : ∀ x, (f x).available = x.available) (c : ConnectionId) (w : World ρ ε) :
    (modified c f w).device.isAvailable c = w.device.isAvailable c := by
  have hget : (modified c f w).device.get? c = (w.device.get? c).map f := by
    simp only [modified, Device.modify, Device.get?, Pool.get?, Pool.modify, Array.getElem?_modify,
      if_true]
  rw [Device.isAvailable, Device.isAvailable, hget, Option.any_map]
  exact congrArg (Option.any · (w.device.get? c)) (funext hf)

lemma get?_modified (hx : w.device.get? c = some x) (f : Connection ρ → Connection ρ) :
    (modified c f w).device.get? c = some (f x) := Device.get?_modify_self f hx

lemma Untouched.of_device (h : w'.device = w.device) : Untouched c w w' :=
  fun x hx => ⟨x, h ▸ hx, rfl, rfl⟩

lemma Untouched.isAvailable_eq (h : Untouched c w w') (hx : w.device.get? c = some x) :
    w'.device.isAvailable c = w.device.isAvailable c := by
  obtain ⟨x', hx', havailable, -⟩ := h x hx
  rw [Unload.isAvailable_eq hx', Unload.isAvailable_eq hx, havailable]

/-- Only the driver makes a connection unavailable, and nobody makes it available again. -/
lemma Goes.isAvailable_eq (h : Goes c p w σ w') (hx : w.device.get? c = some x) :
    w'.device.isAvailable c = w.device.isAvailable c := by
  cases h with
  | enters | leaves | leavesRefused =>
    rw [Unload.isAvailable_eq (get?_modified hx _), Unload.isAvailable_eq hx]
    rfl
  | works _ h => exact h.isAvailable_eq hx
  | refused | admitted | unknown | resolved | joins | ends => rfl

/-- The connection counts one call more or less as a call takes the lock or gives it back. -/
lemma Goes.calls_eq (h : Goes c p w σ w') (hx : w.device.get? c = some x) {n : Nat}
    (hn : x.calls = n + if p.stage.holdsLock then 1 else 0) :
    ∃ x', w'.device.get? c = some x' ∧ x'.calls = n + if σ.holdsLock then 1 else 0 := by
  cases h with
  | enters => exact ⟨_, get?_modified hx _, congrArg (· + 1) hn⟩
  | leaves | leavesRefused => exact ⟨_, get?_modified hx _, congrArg (· - 1) hn⟩
  | works _ h =>
    obtain ⟨x', hx', -, hcalls⟩ := h x hx
    exact ⟨x', hx', hcalls.trans hn⟩
  | ends _ hp =>
    rw [hp.holdsLock] at hn
    exact ⟨x, hx, hn⟩
  | refused | admitted | unknown | resolved | joins => exact ⟨x, hx, hn⟩

/-- A call that is inside got there by finding the driver, or was inside before. -/
lemma Goes.inside (h : Goes c p w σ w') (hσ : σ.Inside) :
    w.device.isAvailable c = true ∨ p.stage.Inside := by
  cases h with
  | enters | refused | leaves | leavesRefused => exact hσ.elim
  | admitted h => exact .inl h
  | unknown | resolved | joins => exact .inr trivial
  | works | ends => exact .inr (Stage.Working.inside ‹_›)

/-- A call that holds the lock after its move held it before, or took it just now. -/
lemma Goes.holdsLock (h : Goes c p w σ w') (hσ : σ.holdsLock = true) :
    p.stage.holdsLock = true ∨ p.stage = .waits := by
  cases h with
  | enters => exact .inr rfl
  | leaves | leavesRefused => cases hσ
  | refused | admitted | unknown | resolved | joins => exact .inl rfl
  | works hp => exact .inl hp.holdsLock
  | ends _ hp => exact .inl hp.holdsLock

/-! ### The invariant -/

lemma Sound.opening (h : Opening c s) : Sound c s := by
  obtain ⟨x, hx, -, hcalls⟩ := h.connection
  have hnone : s.inCount = 0 := by
    rw [State.inCount, h.calls]
    rfl
  refine ⟨⟨x, hx, hcalls.trans hnone.symm⟩, fun _ => hnone, fun p hp => ?_⟩
  rw [h.calls] at hp
  exact absurd hp List.not_mem_nil

lemma Sound.call (hs : Sound c s) (hi : s.calls[i]? = some p)
    (hlock : p.stage = .waits → ¬ s.driver.Excludes) (h : Goes c p s.world σ w) :
    Sound c { s with world := w, calls := s.calls.set i { p with stage := σ } } := by
  obtain ⟨x, hx, hcalls⟩ := hs.counted
  obtain ⟨n, hbefore, hafter⟩ := Places.countP_set_eq hi (·.stage.holdsLock) { p with stage := σ }
  rw [← State.inCount] at hbefore
  have hmem : p ∈ s.calls := List.mem_of_getElem? hi
  constructor
  · obtain ⟨x', hx', hcalls'⟩ := h.calls_eq hx (hcalls.trans hbefore)
    exact ⟨x', hx', hcalls'.trans hafter.symm⟩
  · intro hexcludes
    have hzero : s.inCount = 0 := hs.alone hexcludes
    refine hafter.trans ?_
    -- while the driver holds the lock no call holds it, and none takes it
    have hfree : ¬ σ.holdsLock = true := by
      intro hσ
      rcases h.holdsLock hσ with hholds | hwaits
      · rw [hholds] at hbefore
        simp only [if_true] at hbefore
        omega
      · exact hlock hwaits hexcludes
    rw [if_neg hfree]
    omega
  · intro q hq hinside
    rw [h.isAvailable_eq hx]
    rcases List.mem_or_eq_of_mem_set hq with hq | rfl
    · exact hs.inside q hq hinside
    · rcases h.inside hinside with havailable | hbefore
      · exact havailable
      · exact hs.inside p hmem hbefore

lemma Sound.step {m : Mover} (hs : Sound c s) (h : Step c s m s') : Sound c s' := by
  obtain ⟨x, hx, hcalls⟩ := hs.counted
  cases h with
  | call hi hlock h => exact hs.call hi hlock h
  | locks hd hidle =>
    have hnone : s.inCount = 0 := hcalls.symm.trans (by simpa [Connection.isIdle] using hidle x hx)
    exact ⟨⟨x, hx, hcalls⟩, fun _ => hnone, hs.inside⟩
  | clears hd =>
    have hnone : s.inCount = 0 := hs.alone (.inl hd)
    refine ⟨⟨_, get?_modified hx _, hcalls⟩, fun _ => hnone, fun p hp hinside => ?_⟩
    -- whoever is inside holds the lock
    have hpos : 0 < s.inCount := List.countP_pos_iff.mpr ⟨p, hp, hinside.holdsLock⟩
    omega
  | unlocks hd =>
    refine ⟨⟨x, hx, hcalls⟩, fun hexcludes => ?_, hs.inside⟩
    rcases hexcludes with h | h <;> cases h
  | arrives =>
    rename_i fixture routine
    have hcount : State.inCount { s with calls := s.calls ++ [⟨fixture, routine, .waits⟩] }
        = s.inCount := by
      rw [State.inCount, List.countP_append]
      rfl
    refine ⟨⟨x, hx, hcalls.trans hcount.symm⟩, fun h => hcount.trans (hs.alone h),
      fun p hp hinside => ?_⟩
    rcases List.mem_append.mp hp with hp | hp
    · exact hs.inside p hp hinside
    · obtain rfl := List.mem_singleton.mp hp
      exact hinside.elim
  | elsewhere h =>
    obtain ⟨x', hx', -, hcalls'⟩ := h x hx
    exact ⟨⟨x', hx', hcalls'.trans hcalls⟩, hs.alone,
      fun p hp hinside => (h.isAvailable_eq hx).trans (hs.inside p hp hinside)⟩

lemma Sound.runs (hs : Sound c s) (h : Runs c s s') : Sound c s' := by
  induction h with
  | refl => exact hs
  | tail _ hstep ih =>
    obtain ⟨m, hstep⟩ := hstep
    exact ih.step hstep

/-! ### Calls that come too late -/

/-- Once the connection is unavailable it stays so. -/
lemma Sound.unavailable_step {m : Mover} (hs : Sound c s) (h : Step c s m s')
    (hgone : s.world.device.isAvailable c = false) : s'.world.device.isAvailable c = false := by
  obtain ⟨x, hx, -⟩ := hs.counted
  cases h with
  | call hi hlock h => exact (h.isAvailable_eq hx).trans hgone
  | clears => exact isAvailable_eq (get?_modified hx _)
  | elsewhere h => exact (h.isAvailable_eq hx).trans hgone
  | locks | unlocks | arrives => exact hgone

/-- A call that finds the driver gone does nothing but take the lock and give it back. -/
lemma Goes.turnedAway (h : Goes c p w σ w') (hp : p.stage.TurnedAway)
    (hgone : w.device.isAvailable c = false) :
    σ.TurnedAway ∧ ∃ device, w' = { w with device } := by
  cases h with
  | enters | leavesRefused => exact ⟨trivial, _, rfl⟩
  | refused => exact ⟨trivial, _, rfl⟩
  | admitted h =>
    rw [hgone] at h
    cases h
  | unknown | resolved | joins | leaves => exact hp.elim
  | works hwork _ | ends _ hwork =>
    exfalso
    cases hσ : p.stage <;> rw [hσ] at hp hwork <;> first | exact hp.elim | exact hwork.elim

/-- Whoever takes a step, a call that came too late stays turned away. -/
lemma turnedAway_step {m : Mover} (h : Step c s m s')
    (hgone : s.world.device.isAvailable c = false) (hi : s.calls[i]? = some p)
    (hp : p.stage.TurnedAway) :
    ∃ p', s'.calls[i]? = some p' ∧ p'.stage.TurnedAway := by
  cases h with
  | call hj hlock h =>
    rename_i j q σ w
    by_cases hij : j = i
    · subst hij
      obtain rfl : q = p := Option.some.inj (hj.symm.trans hi)
      exact ⟨_, Places.getElem?_set_self hi _, (h.turnedAway hp hgone).1⟩
    · exact ⟨p, (Places.getElem?_set_of_ne hij _).trans hi, hp⟩
  | arrives =>
    refine ⟨p, ?_, hp⟩
    exact (List.getElem?_append_left (List.getElem?_eq_some_iff.mp hi).1).trans hi
  | locks | clears | unlocks | elsewhere => exact ⟨p, hi, hp⟩

lemma Sound.turnedAway_runs (hs : Sound c s) (h : Runs c s s')
    (hgone : s.world.device.isAvailable c = false) (hi : s.calls[i]? = some p)
    (hp : p.stage.TurnedAway) :
    s'.world.device.isAvailable c = false ∧
      ∃ p', s'.calls[i]? = some p' ∧ p'.stage.TurnedAway := by
  induction h with
  | refl => exact ⟨hgone, p, hi, hp⟩
  | tail hruns hstep ih =>
    obtain ⟨m, hstep⟩ := hstep
    obtain ⟨hgone', p', hi', hp'⟩ := ih
    have hs' := hs.runs hruns
    exact ⟨hs'.unavailable_step hstep hgone', turnedAway_step hstep hgone' hi' hp'⟩

/-- Nobody but the driver that holds the lock keeps a call that came too late from going on. -/
lemma exists_step_of_turnedAway (hgone : s.world.device.isAvailable c = false)
    (hi : s.calls[i]? = some p) (hp : p.stage.TurnedAway) :
    p.stage = .done (.ok (.error .unavailable)) ∨ s.driver.Excludes ∨
      ∃ s', Step c s (.call i) s' := by
  obtain ⟨fixture, routine, σ⟩ := p
  by_cases hexcludes : s.driver.Excludes
  · exact .inr (.inl hexcludes)
  · cases σ with
    | waits => exact .inr (.inr ⟨_, .call hi (fun _ => hexcludes) .enters⟩)
    | entered => exact .inr (.inr ⟨_, .call hi (fun _ => hexcludes) (.refused hgone)⟩)
    | refused => exact .inr (.inr ⟨_, .call hi (fun _ => hexcludes) .leavesRefused⟩)
    | done result =>
      refine .inl ?_
      match result, hp with
      | .ok (.error .unavailable), _ => rfl
    | admitted | runs | joins | ended => exact hp.elim

/-! ### What the program does -/

section

variable {exec : Routines ρ ε} {fixture routine : UInt16} {channel : ObserverId}
  {value : UInt64}

lemma modify_eq (c : ConnectionId) (f : Connection ρ → Connection ρ) (w : World ρ ε) :
    Driver.modify c f w = (.ok (), modified c f w) := rfl

lemma leave_enter (c : ConnectionId) (w : World ρ ε) :
    modified c .leave (modified c .enter w) = w :=
  congrArg (fun device => { w with device }) (Device.leave_enter w.device c)

/-- A call that finds the driver gone says so, and leaves the world as it was. -/
theorem call_eq_unavailable (hgone : w.device.isAvailable c = false) :
    Driver.call exec c fixture routine channel value w = (.ok (.error .unavailable), w) := by
  rw [Driver.call, Flow.bind_ok (modify_eq c _ w)]
  refine (Flow.ensuring_ok ?_ (modify_eq c _ _)).trans
    (Prod.ext rfl (leave_enter c w))
  rw [World.seeDevice, Flow.bind_ok (Flow.see_apply _ _)]
  have hunavailable : (modified c .enter w).device.isAvailable c = false :=
    (isAvailable_modified Connection.enter (fun _ => rfl) c w).trans hgone
  cases hx : (modified c .enter w).device.get? c with
  | none => rfl
  | some x =>
    rw [isAvailable_eq hx] at hunavailable
    simp only [hunavailable]
    rfl

/-- So does a request for a call, whose reference to the connection is given back. -/
theorem callAt_eq_unavailable {r : CallRequest} (hfound : (w.device.lookup r.address).1 = .ok c)
    (hgone : w.device.isAvailable c = false) :
    ∃ threads device, Driver.callAt exec r channel w
      = (.ok (.error (.call .unavailable)), { w with threads, device }) := by
  obtain ⟨d, hlookup⟩ : ∃ d, w.device.lookup r.address = (.ok c, d) := ⟨_, Prod.ext hfound rfl⟩
  obtain ⟨-, rfl⟩ := Device.lookup_ok_eq hlookup
  have hfind := World.onDevice_eq w (·.lookup r.address)
  rw [hlookup] at hfind
  let w₁ : World ρ ε := { w with device := w.device.modify c .retain }
  have hgone₁ : w₁.device.isAvailable c = false :=
    (isAvailable_modified Connection.retain (fun _ => rfl) c w).trans hgone
  have hrelease := World.changeDevice_eq w₁ (·.release c)
  have hcall : (Driver.call exec c r.fixture r.routine channel r.value).ensuring (Driver.release c)
      w₁ = (.ok (.error .unavailable), _) :=
    Flow.ensuring_ok (call_eq_unavailable hgone₁) hrelease
  refine ⟨w₁.threads, w₁.device.release c, ?_⟩
  rw [Driver.callAt]
  exact (Flow.bind_ok hfind).trans (Flow.bind_ok hcall)

/-- The state in which a call has come so far, in a world. -/
def State.reaching (s : State ρ ε) (i : Nat) (p : Call ρ) (w : World ρ ε) : State ρ ε :=
  { s with world := w, calls := s.calls.set i p }

/-- A call that is past the lock takes its next step. -/
lemma Runs.goes {σ σ' : Stage ρ} (h : Runs c s (s.reaching i ⟨fixture, routine, σ⟩ w))
    (hlt : i < s.calls.length) (hσ : σ ≠ .waits) (hgo : Goes c ⟨fixture, routine, σ⟩ w σ' w') :
    Runs c s (s.reaching i ⟨fixture, routine, σ'⟩ w') := by
  have hi : (s.reaching i ⟨fixture, routine, σ⟩ w).calls[i]? = some ⟨fixture, routine, σ⟩ :=
    Places.getElem?_set_self (List.getElem?_eq_getElem hlt) _
  have hstep := Step.call hi (fun hwaits => absurd hwaits hσ) hgo
  rw [State.reaching, List.set_set] at hstep
  exact h.tail ⟨_, hstep⟩

/-- A call that is not interrupted takes its steps one after the other. -/
theorem call_runs (hi : s.calls[i]? = some ⟨fixture, routine, .waits⟩)
    (hlock : ¬ s.driver.Excludes) (hx : s.world.device.get? c = some x)
    (hbody : ∀ q w, Untouched c w
      (Driver.callProtected exec x.registry x.joinLimit q channel value w).2)
    {result : Result}
    (hcall : (Driver.call exec c fixture routine channel value).attempt s.world
      = (.ok result, w')) :
    Runs c s (s.reaching i ⟨fixture, routine, .done result⟩ w') := by
  let w₁ : World ρ ε := modified c .enter s.world
  have hx₁ : w₁.device.get? c = some x.enter := get?_modified hx _
  have hlt : i < s.calls.length := (List.getElem?_eq_some_iff.mp hi).1
  have hentered : Runs c s (s.reaching i ⟨fixture, routine, .entered⟩ w₁) :=
    .single ⟨_, .call hi (fun _ => hlock) .enters⟩
  rw [Driver.call, Flow.attempt, Flow.bind_ok (modify_eq c _ s.world)] at hcall
  obtain ⟨w₂, hprotected, rfl⟩ := Flow.attempt_ensuring (fun w => modify_eq c _ w) hcall
  rw [World.seeDevice, Flow.attempt, Flow.bind_ok (Flow.see_apply _ _), hx₁] at hprotected
  cases havailable : x.available with
  | false =>
    have hgone : w₁.device.isAvailable c = false := (isAvailable_eq hx₁).trans havailable
    have hunavailable : x.enter.available = false := havailable
    simp only [hunavailable] at hprotected
    cases hprotected
    have hrefused := hentered.goes hlt (by simp) (.refused hgone)
    exact hrefused.goes hlt (by simp) .leavesRefused
  | true =>
    have hthere : w₁.device.isAvailable c = true := (isAvailable_eq hx₁).trans havailable
    have hadmitted := hentered.goes hlt (by simp) (.admitted hthere)
    have hfound : x.enter.available = true := havailable
    simp only [hfound] at hprotected
    cases hroutine : x.routines.routine? fixture routine with
    | none =>
      have hroutine' : x.enter.routines.routine? fixture routine = none := hroutine
      simp only [hroutine'] at hprotected
      cases hprotected
      have hended := hadmitted.goes hlt (by simp) (.unknown hx₁ hroutine)
      exact hended.goes hlt (by simp) .leaves
    | some q =>
      have hroutine' : x.enter.routines.routine? fixture routine = some q := hroutine
      simp only [hroutine'] at hprotected
      have hended : w₂ = (Driver.callProtected exec x.registry x.joinLimit q channel value w₁).2 :=
        (congrArg Prod.snd hprotected).symm.trans (Flow.attempt_snd _ _)
      have htouched : Untouched c w₁ w₂ := hended ▸ hbody q w₁
      have hresolved := hadmitted.goes hlt (by simp) (.resolved hx₁ hroutine)
      have hworked := hresolved.goes hlt (by simp) (.works trivial htouched)
      have hjoined := hworked.goes hlt (by simp) .joins
      have hdone := hjoined.goes hlt (by simp) (.ends result trivial)
      exact hdone.goes hlt (by simp) .leaves

/-- A connection that goes away does so in the table; it is still known by its name. -/
lemma connections_release (d : Device ρ) (c : ConnectionId) :
    (d.release c).connections = (d.modify c .release).connections := by
  rw [Device.release]
  split
  · rfl
  · split
    · rfl
    · rw [Device.unregister]
      split <;> rfl

/-- What is left to do when the driver has let go touches nothing that the calls look at. -/
lemma untouched_disconnect (hx : w.device.get? c = some x) :
    Untouched c (modified c .close w) { w with device := w.device.disconnect c } := by
  intro y hy
  obtain rfl : x.close = y := Option.some.inj ((get?_modified hx _).symm.trans hy)
  refine ⟨x.close.release, ?_, rfl, rfl⟩
  have hreleased : ((w.device.modify c .close).modify c .release).get? c = some x.close.release :=
    Device.get?_modify_self _ (Device.get?_modify_self _ hx)
  rw [Device.get?, Device.disconnect, connections_release]
  exact hreleased

/-- A driver that lets go while no call holds the lock takes its steps one after the other. -/
theorem disconnect_runs (hd : s.driver = .holds) (hx : s.world.device.get? c = some x)
    (hidle : x.isIdle = true) :
    ∃ w', Driver.disconnect c s.world = (.ok (), w') ∧
      Runs c s { s with world := w', driver := .gone } := by
  have hdisconnect := World.changeDevice_eq s.world (·.disconnect c)
  refine ⟨_, hdisconnect, ?_⟩
  have hlocked : Runs c s { s with driver := .locked } := by
    refine .single ⟨_, .locks hd fun y hy => ?_⟩
    obtain rfl : x = y := Option.some.inj (hx.symm.trans hy)
    exact hidle
  have hcleared := hlocked.tail ⟨_, .clears rfl⟩
  have hgone := hcleared.tail ⟨_, .unlocks rfl⟩
  exact hgone.tail ⟨_, .elsewhere (untouched_disconnect hx)⟩

end

/-! ### Safety -/

/-- While a call is between its look at the driver and the end of its hold on the unload lock, the
driver is there.  A call that looks too late is told so, whoever moves in between, and it runs no
routine and leaves everything but the unload lock as it is; the same as a whole, in the program. -/
theorem call_safe {s₀ : State ρ ε} (h₀ : Opening c s₀) (h : Runs c s₀ s) :
    (∀ p ∈ s.calls, p.stage.Inside → s.world.device.isAvailable c = true) ∧
    (∀ i p, s.calls[i]? = some p → p.stage.Unchecked → s.world.device.isAvailable c = false →
      ∀ s', Runs c s s' → ∃ p', s'.calls[i]? = some p' ∧ p'.stage.TurnedAway ∧
        (∀ s'', Step c s' (.call i) s'' → ∃ device, s''.world = { s'.world with device }) ∧
        (p'.stage = .done (.ok (.error .unavailable)) ∨ s'.driver.Excludes ∨
          ∃ s'', Step c s' (.call i) s'')) ∧
    (s.world.device.isAvailable c = false → ∀ (exec : Routines ρ ε) channel,
      (∀ fixture routine value, Driver.call exec c fixture routine channel value s.world
        = (.ok (.error .unavailable), s.world)) ∧
      ∀ r : CallRequest, (s.world.device.lookup r.address).1 = .ok c →
        ∃ threads device, Driver.callAt exec r channel s.world
          = (.ok (.error (.call .unavailable)), { s.world with threads, device })) := by
  have hs : Sound c s := (Sound.opening h₀).runs h
  refine ⟨hs.inside, fun i p hi hp hgone s' hruns => ?_, fun hgone exec channel => ?_⟩
  · have haway : p.stage.TurnedAway := by
      cases hσ : p.stage <;> rw [hσ] at hp <;> trivial
    obtain ⟨hgone', p', hi', hp'⟩ := hs.turnedAway_runs hruns hgone hi haway
    refine ⟨p', hi', hp', fun s'' hstep => ?_, exists_step_of_turnedAway hgone' hi' hp'⟩
    cases hstep with
    | call hj _ hgo =>
      obtain rfl := Option.some.inj (hj.symm.trans hi')
      exact (hgo.turnedAway hp' hgone').2
  · exact ⟨fun _ _ _ => call_eq_unavailable hgone, fun r hfound =>
      callAt_eq_unavailable hfound hgone⟩

/-- A driver with one routine, which nobody calls. -/
def idle : State Unit Unit where
  world := {
    device := { connections := ⟨#[{
      address := 8, routines := ⟨#[⟨"Probe", #[⟨.testCase, "Run", ()⟩]⟩]⟩, registry := 0,
      sinkVersion := Sink.version₁, joinLimit := .ofSeconds 60 }]⟩ }
    store := () }

/-- A routine is at work: the driver is there and cannot go.  It goes once the routine has ended and
the call is over; then another call takes the lock, and nothing comes of it. -/
theorem call_safe_late : ∃ s s' : State Unit Unit, Opening 0 idle ∧ Runs 0 idle s ∧
    s.calls.map Call.stage = [.runs ()] ∧ s.world.device.isAvailable 0 = true ∧
    (∀ t, ¬ Step 0 s .driver t) ∧ Runs 0 s s' ∧
    s'.calls.map Call.stage = [.done (.ok (.ok ⟨true, false, 0⟩)), .entered] ∧
    s'.world.device.isAvailable 0 = false ∧
    ∀ t, Runs 0 s' t → ∃ p, t.calls[1]? = some p ∧ p.stage.TurnedAway := by
  have hopening : Opening 0 idle := ⟨⟨_, rfl, rfl, rfl⟩, rfl, rfl⟩
  let completed : Result := .ok (.ok ⟨true, false, 0⟩)
  let w : World Unit Unit := modified 0 .enter idle.world
  let busy : State Unit Unit := ⟨w, [⟨0, 0, .runs ()⟩], .holds⟩
  let ended : State Unit Unit := ⟨modified 0 .leave w, [⟨0, 0, .done completed⟩], .holds⟩
  have hholds : ¬ Departure.holds.Excludes := by rintro (h | h) <;> cases h
  have hleft : ¬ Departure.gone.Excludes := by rintro (h | h) <;> cases h
  have hwaits : Runs 0 idle { idle with calls := [⟨0, 0, .waits⟩] } :=
    .single ⟨.others, .arrives (f := 0) (r := 0)⟩
  have hentered := hwaits.tail ⟨.call 0, .call rfl (fun _ => hholds) .enters⟩
  have hadmitted := hentered.tail ⟨.call 0, .call rfl (fun _ => hholds) (.admitted rfl)⟩
  have hworks : Runs 0 idle busy :=
    hadmitted.tail ⟨.call 0, .call rfl (fun _ => hholds) (.resolved rfl rfl)⟩
  have hgoes : Goes 0 ⟨0, 0, .runs ()⟩ w (.ended completed) w := .ends completed trivial
  have hends : Step 0 busy (.call 0) _ := .call rfl (fun _ => hholds) hgoes
  have hover : Runs 0 busy ended :=
    .tail (.single ⟨_, hends⟩) ⟨.call 0, .call rfl (fun _ => hholds) .leaves⟩
  have hlocked : Runs 0 busy { ended with driver := .locked } :=
    hover.tail ⟨.driver, .locks rfl fun x hx => by cases hx; rfl⟩
  have hgone := (hlocked.tail ⟨.driver, .clears rfl⟩).tail ⟨.driver, .unlocks rfl⟩
  have hcomes := hgone.tail ⟨.others, .arrives (f := 0) (r := 0)⟩
  have hlate := hcomes.tail ⟨.call 1, .call rfl (fun _ => hleft) .enters⟩
  obtain ⟨hinside, -, -⟩ := call_safe hopening hworks
  obtain ⟨-, haway, -⟩ := call_safe hopening (hworks.trans hlate)
  refine ⟨_, _, hopening, hworks, rfl, hinside _ List.mem_cons_self trivial, fun t ht => ?_, hlate,
    rfl, rfl, fun t ht => ?_⟩
  · cases ht with
    | locks _ hidle => cases hidle _ rfl
    | clears hd => cases hd
    | unlocks hd => cases hd
  · obtain ⟨p, hp, hturned, -⟩ := haway 1 _ rfl trivial rfl t ht
    exact ⟨p, hp, hturned⟩

end Testbench.Unload
