import Testbench.Proofs.Crew
import Testbench.Proofs.Remote.Call
import Testbench.Proofs.Unload

/-!
# Threads that outlive their driver

A call holds the unload lock of its driver while the threads of its routine take turns, and gives it
back once it has come out; from then on nothing keeps the driver from going.  A call that is in time
comes out when all threads that the routine started are finished.  A call that is late comes out
before, and whoever is left goes on, whether the driver is there or not.  So does whoever is left of
a call whose wait the clock cannot time: it does not wait at all, but unwinds.

Here the calls into a driver, the driver, and the threads of one of the calls take their steps in any
order.
-/

namespace Testbench

namespace Crew

variable {ρ ε : Type} {reg : RegistryId} {f : FilamentId} {limit : Duration} {s s' : State ρ ε}
  {i : Nat} {p : Worker} {φ : Phase} {w w' : World ρ ε}

/-! ### The threads of a call -/

/-- A thread that has not run its function so far. -/
def Phase.early : Phase → Bool
  | outside | counted | turnedAway _ | refused _ | bound | gone _ => true
  | runs | awaits _ | ended _ | caught _ | joined _ | overdue _ | reported _ | settled .. | noted _
  | unbound .. | done _ | stranded _ => false

lemma Goes.early (h : Goes reg f limit i p w φ w') (hφ : φ.early = true) :
    p.phase.early = true := by
  cases h <;> first | rfl | cases hφ

/-- The calling thread starts nobody before its function runs. -/
def Alone (workers : List Worker) : Prop :=
  ∀ q, workers[0]? = some q → q.phase.early = true → workers.length = 1

lemma Alone.set {workers : List Worker} (hs : Alone workers) (hi : workers[i]? = some p)
    (hφ : φ.early = true → p.phase.early = true) : Alone (workers.set i { p with phase := φ }) := by
  intro q hq hearly
  rw [List.length_set]
  rcases Places.getElem?_set_eq_some hq with ⟨rfl, rfl⟩ | ⟨-, hq⟩
  · exact hs p hi (hφ hearly)
  · exact hs q hq hearly

lemma Step.alone (h : Step reg f limit s s') (hs : Alone s.workers) : Alone s'.workers := by
  cases h with
  | goes hi h => exact hs.set hi h.early
  | reports hi => exact hs.set hi fun h => nomatch h
  | hears hi => exact hs.set hi fun h => nomatch h
  | elsewhere => exact hs
  | @starts i t u w hi =>
    intro q hq hearly
    have hlt : 0 < (s.workers.set i ⟨t, .awaits u⟩).length := by
      rw [List.length_set]
      exact Nat.zero_lt_of_lt (List.getElem?_eq_some_iff.mp hi).1
    have hq : (s.workers.set i ⟨t, .awaits u⟩)[0]? = some q :=
      (List.getElem?_append_left hlt).symm.trans hq
    rcases Places.getElem?_set_eq_some hq with ⟨-, rfl⟩ | ⟨hne, hq⟩
    · cases hearly
    · -- who starts a thread is not the calling thread, which therefore is not alone
      have hone := hs q hq hearly
      have hi := (List.getElem?_eq_some_iff.mp hi).1
      omega

/-- A thread of which nothing more comes. -/
def Phase.isLast (φ : Phase) : Bool := φ.finished || φ.isStranded

lemma Goes.not_last (h : Goes reg f limit i p w φ w') : p.phase.isLast = false := by
  rw [Phase.isLast, h.not_finished, h.not_stranded]
  rfl

lemma Step.stays (h : Step reg f limit s s') (hi : s.workers[i]? = some p)
    (hp : p.phase.isLast = true) : s'.workers[i]? = some p := by
  have hset {j : Nat} {q : Worker} (hj : s.workers[j]? = some q) (hq : q.phase.isLast = false)
      (r : Worker) : (s.workers.set j r)[i]? = some p := by
    have hne : j ≠ i := by
      rintro rfl
      rw [Option.some.inj (hj.symm.trans hi), hp] at hq
      cases hq
    exact (Places.getElem?_set_of_ne hne r).trans hi
  cases h with
  | goes hj h => exact hset hj h.not_last _
  | reports hj | hears hj => exact hset hj rfl _
  | elsewhere => exact hi
  | @starts j t u w hj =>
    have hstays := hset hj rfl ⟨t, .awaits u⟩
    exact (List.getElem?_append_left (List.getElem?_eq_some_iff.mp hstays).1).trans hstays

/-- What a worker does depends on nothing but the roster, and changes nothing else. -/
lemma Goes.withDevice (h : Goes reg f limit i p w φ w') (d : Device ρ) :
    Goes reg f limit i p { w with device := d } φ { w' with device := d } := by
  cases h with
  | counts h => exact .counts h
  | full h => exact .full h
  | sits h => exact .sits h
  | conflicts h => exact .conflicts h
  | givesUp => exact .givesUp
  | declines => exact .declines
  | drops hi => exact .drops hi
  | begins => exact .begins
  | ends result => exact .ends result
  | catches e => exact .catches e
  | joins hlimit hx h => exact .joins hlimit hx h
  | givesUpWaiting hlimit hx h => exact .givesUpWaiting hlimit hx h
  | strands hlimit => exact .strands hlimit
  | settles hx => exact .settles hx
  | settlesLate hx => exact .settlesLate hx
  | notes he => exact .notes he
  | passesOn he => exact .passesOn he
  | unbinds hp h => exact .unbinds hp h
  | unbindsNothing hp h => exact .unbindsNothing hp h
  | releases => exact .releases

/-- The threads of a call do not care for the device. -/
lemma Step.withDevice (h : Step reg f limit s s') (d : Device ρ) :
    Step reg f limit { s with world.device := d } { s' with world.device := d } := by
  cases h with
  | goes hi h => exact .goes hi (h.withDevice d)
  | reports hi hx => exact .reports hi hx
  | starts hi h =>
    obtain ⟨hu, rfl⟩ := Prod.mk.inj h
    cases hu
    exact .starts hi rfl
  | hears hi hj h => exact .hears hi hj h
  | elsewhere h => exact .elsewhere ⟨h.threads, h.filament, h.seats⟩

/-- Without a calling thread nobody takes a step. -/
lemma Step.nobody (h : Step reg f limit s s') (hs : s.workers = []) : s'.workers = [] := by
  have hnone {j : Nat} {q : Worker} : s.workers[j]? ≠ some q := by
    rw [hs]
    exact fun h => nomatch h
  cases h with
  | goes hi | reports hi | hears hi | starts hi => exact absurd hi hnone
  | elsewhere => exact hs

end Crew

namespace Outlive

open Crew (Worker Phase Exit lateNote Alone)
open Unload (Untouched modified)

variable {ρ ε : Type}

/-- The calls into a driver and the driver, and the threads of one call, once its routine is found. -/
structure State (ρ ε : Type) where
  unload : Unload.State ρ ε
  workers : List Worker := []
  told : List Event := []

namespace State

/-- The threads of the call, and what it reported since its routine ended. -/
def crew (s : State ρ ε) : Crew.State ρ ε := ⟨s.unload.world, s.workers, s.told⟩

/-- The threads of the call have come to another state. -/
def advance (s : State ρ ε) (t : Crew.State ρ ε) : State ρ ε where
  unload := { s.unload with world := t.world }
  workers := t.workers
  told := t.told

end State

/-- The call in a place is at work. -/
def AtWork (k : Nat) (calls : List (Unload.Call ρ)) : Prop :=
  ∃ p, calls[k]? = some p ∧ p.stage.Working

/-- What a call comes to of whose calling thread nothing more comes. -/
inductive Answers : Phase → Unload.Result → Prop
  | called {e late o} (v : UInt64) :
      Answers (.done (.call e late o)) (e.answer (.ok (Driver.resultFor o v)))
  | refused {why} : Answers (.gone (.filament why)) (.ok (.error (.filament why)))
  | stranded {e} : Answers (.stranded e) (.error untimed)

section

variable (c : ConnectionId) (k : Nat) (reg : RegistryId) (f : FilamentId) (limit : Duration)

/-- One step: the call in place `k` finds its routine and makes a filament for it, one of its threads
takes a step, or it comes out when nothing more comes of its calling thread.  All other steps are
those of the calls and of the driver; they leave the filament to its threads. -/
inductive Step : State ρ ε → State ρ ε → Prop
  | opens {s fixture routine q x} (channel : ObserverId) (value : UInt64)
      (hk : s.unload.calls[k]? = some ⟨fixture, routine, .admitted⟩)
      (hx : s.unload.world.device.get? c = some x)
      (hq : x.routines.routine? fixture routine = some q)
      (hreg : x.registry = reg) (hlimit : x.joinLimit = limit)
      (hf : s.unload.world.nextFilament = f)
      (hcaller : s.unload.world.current < s.unload.world.threads.items.size) :
      Step s (State.advance
        { s with unload.calls := s.unload.calls.set k ⟨fixture, routine, .runs q⟩ }
        (Crew.calling s.unload.world channel value))
  | crew {s t} (h : Crew.Step reg f limit s.crew t) (hc : Untouched c s.unload.world t.world) :
      Step s (s.advance t)
  | ends {s p q result} (hk : s.unload.calls[k]? = some p) (hp : p.stage.Working)
      (hcaller : s.workers[0]? = some q) (h : Answers q.phase result) :
      Step s { s with
        unload.calls := s.unload.calls.set k { p with stage := .ended result } }
  | protocol {s u m} (h : Unload.Step c s.unload m u)
      (hf : Crew.Spares reg f s.unload.world u.world)
      (hk : AtWork k u.calls ↔ AtWork k s.unload.calls) : Step s { s with unload := u }

/-- Any number of steps of anybody. -/
def Runs : State ρ ε → State ρ ε → Prop := Relation.ReflTransGen (Step c k reg f limit)

/-- A driver holds its connection, and nobody calls it. -/
structure Opening (s : State ρ ε) : Prop where
  unload : Unload.Opening c s.unload
  workers : s.workers = []

/-- A driver that has taken its handle back has left the connection unavailable. -/
def Departed (u : Unload.State ρ ε) : Prop :=
  u.driver = .cleared ∨ u.driver = .gone → u.world.device.isAvailable c = false

/-- How far the call has come, by how far its threads have come. -/
inductive Synced (s : State ρ ε) : Prop
  | before (h : s.workers = [])
  | atWork (h : AtWork k s.unload.calls)
  | after {p q result} (hk : s.unload.calls[k]? = some p)
      (hp : p.stage = .ended result ∨ p.stage = .done result)
      (hcaller : s.workers[0]? = some q) (h : Answers q.phase result)

/-- All that holds of the calls, of the driver and of the threads. -/
structure Sound (s : State ρ ε) : Prop where
  unload : Unload.Sound c s.unload
  departed : Departed c s.unload
  crew : s.workers ≠ [] → ∃ main, Crew.Sound reg f limit main .completed s.crew
  alone : Alone s.workers
  synced : Synced k s

end

variable {c : ConnectionId} {k : Nat} {reg : RegistryId} {f : FilamentId} {limit : Duration}
  {s₀ s s' : State ρ ε} {u u' : Unload.State ρ ε} {p : Unload.Call ρ} {w w' : World ρ ε}
  {x : Connection ρ} {i : Nat}

lemma Answers.isLast {φ : Phase} {result : Unload.Result} (h : Answers φ result) :
    φ.isLast = true := by
  cases h <;> rfl

/-! ### The calls and the driver -/

lemma Departed.step {m : Unload.Mover} (hd : Departed c u) (hs : Unload.Sound c u)
    (h : Unload.Step c u m u') : Departed c u' := by
  intro hd'
  obtain ⟨x, hx, -⟩ := hs.counted
  cases h with
  | locks => rcases hd' with h | h <;> cases h
  | clears => exact Unload.isAvailable_eq (Unload.get?_modified hx _)
  | unlocks hcleared => exact hd (.inl hcleared)
  | call hi hlock hgo => exact hs.unavailable_step (.call hi hlock hgo) (hd hd')
  | arrives => exact hd hd'
  | elsewhere h => exact hs.unavailable_step (.elsewhere h) (hd hd')

/-- When the driver has begun to go, no call is inside. -/
lemma not_inside (hs : Unload.Sound c u) (hd : Departed c u) (hleaves : u.driver ≠ .holds)
    (hp : p ∈ u.calls) : ¬ p.stage.Inside := by
  intro hinside
  have hthere := hs.inside p hp hinside
  cases hdriver : u.driver with
  | holds => exact hleaves hdriver
  | locked =>
    have hpos : 0 < u.inCount := List.countP_pos_iff.mpr ⟨p, hp, hinside.holdsLock⟩
    have hnone := hs.alone (.inl hdriver)
    omega
  | cleared =>
    rw [hd (.inl hdriver)] at hthere
    cases hthere
  | gone =>
    rw [hd (.inr hdriver)] at hthere
    cases hthere

lemma atWork_iff {calls : List (Unload.Call ρ)} (hk : calls[k]? = some p) :
    AtWork k calls ↔ p.stage.Working := by
  refine ⟨?_, fun h => ⟨p, hk, h⟩⟩
  rintro ⟨q, hq, h⟩
  obtain rfl := Option.some.inj (hk.symm.trans hq)
  exact h

/-- A call that has come out goes no further than to give the lock back. -/
lemma ended_step {m : Unload.Mover} {result : Unload.Result} (h : Unload.Step c u m u')
    (hk : u.calls[k]? = some p) (hp : p.stage = .ended result ∨ p.stage = .done result) :
    ∃ p', u'.calls[k]? = some p' ∧ (p'.stage = .ended result ∨ p'.stage = .done result) := by
  cases h with
  | @call i q σ w hi hlock hgo =>
    by_cases hik : i = k
    · subst hik
      obtain rfl := Option.some.inj (hk.symm.trans hi)
      refine ⟨_, Places.getElem?_set_self hi _, ?_⟩
      cases hgo with
      | leaves =>
        rcases hp with hp | hp
        · exact .inr (congrArg Unload.Stage.done (Unload.Stage.ended.inj hp))
        · cases hp
      | works hwork | ends _ hwork =>
        rcases hp with hp | hp <;> rw [hp] at hwork <;> exact hwork.elim
      | enters | refused | admitted | unknown | resolved | joins | leavesRefused =>
        rcases hp with hp | hp <;> cases hp
    · exact ⟨p, (Places.getElem?_set_of_ne hik _).trans hk, hp⟩
  | arrives =>
    exact ⟨p, (List.getElem?_append_left (List.getElem?_eq_some_iff.mp hk).1).trans hk, hp⟩
  | locks | clears | unlocks | elsewhere => exact ⟨p, hk, hp⟩

/-! ### The invariant -/

lemma Sound.opening (h : Opening c s) : Sound c k reg f limit s where
  unload := .opening h.unload
  departed hd := by
    rw [h.unload.driver] at hd
    rcases hd with hd | hd <;> cases hd
  crew hne := absurd h.workers hne
  alone q hq := by
    rw [h.workers] at hq
    cases hq
  synced := .before h.workers

/-- The call finds its routine. -/
lemma Sound.opens (hs : Sound c k reg f limit s) {fixture routine : UInt16} {q : ρ}
    (channel : ObserverId) (value : UInt64)
    (hk : s.unload.calls[k]? = some ⟨fixture, routine, .admitted⟩)
    (hx : s.unload.world.device.get? c = some x)
    (hq : x.routines.routine? fixture routine = some q) (hf : s.unload.world.nextFilament = f)
    (hcaller : s.unload.world.current < s.unload.world.threads.items.size) :
    Sound c k reg f limit (State.advance
      { s with unload.calls := s.unload.calls.set k ⟨fixture, routine, .runs q⟩ }
      (Crew.calling s.unload.world channel value)) where
  unload := (hs.unload.call hk (fun h => nomatch h) (.resolved hx hq)).step
    (.elsewhere (.of_device rfl))
  departed hd := hs.departed hd
  crew _ := by
    subst hf
    exact Crew.Sound.opening (Crew.opening_calling hcaller channel value)
  alone _ _ _ := rfl
  synced := .atWork ⟨_, Places.getElem?_set_self hk _, trivial⟩

/-- A thread of the call takes a step. -/
lemma Sound.crewStep (hs : Sound c k reg f limit s) {t : Crew.State ρ ε}
    (h : Crew.Step reg f limit s.crew t) (hc : Untouched c s.unload.world t.world) :
    Sound c k reg f limit (s.advance t) where
  unload := hs.unload.step (.elsewhere hc)
  departed hd := by
    obtain ⟨x, hx, -⟩ := hs.unload.counted
    exact (hc.isAvailable_eq hx).trans (hs.departed hd)
  crew hne := by
    obtain ⟨main, hcrew⟩ := hs.crew fun hnobody => hne (h.nobody hnobody)
    exact ⟨main, hcrew.step h⟩
  alone := h.alone hs.alone
  synced := by
    cases hs.synced with
    | before hnobody => exact .before (h.nobody hnobody)
    | atWork hwork => exact .atWork hwork
    | after hk hp hcaller hanswer =>
      exact .after hk hp (h.stays hcaller hanswer.isLast) hanswer

/-- The call comes out. -/
lemma Sound.ends (hs : Sound c k reg f limit s) {q : Worker} {result : Unload.Result}
    (hk : s.unload.calls[k]? = some p) (hp : p.stage.Working) (hcaller : s.workers[0]? = some q)
    (h : Answers q.phase result) :
    Sound c k reg f limit { s with
      unload.calls := s.unload.calls.set k { p with stage := .ended result } } where
  unload := hs.unload.call hk
    (fun hwaits => absurd (hwaits ▸ hp : Unload.Stage.Working .waits) id) (.ends result hp)
  departed := hs.departed
  crew := hs.crew
  alone := hs.alone
  synced := .after (Places.getElem?_set_self hk _) (.inl rfl) hcaller h

/-- Another call or the driver takes a step, or the call on its way in or out. -/
lemma Sound.protocol (hs : Sound c k reg f limit s) {m : Unload.Mover}
    (h : Unload.Step c s.unload m u) (hf : Crew.Spares reg f s.unload.world u.world)
    (hk : AtWork k u.calls ↔ AtWork k s.unload.calls) :
    Sound c k reg f limit { s with unload := u } where
  unload := hs.unload.step h
  departed := hs.departed.step hs.unload h
  crew hne := by
    obtain ⟨main, hcrew⟩ := hs.crew hne
    exact ⟨main, hcrew.elsewhere hf⟩
  alone := hs.alone
  synced := by
    cases hs.synced with
    | before hnobody => exact .before hnobody
    | atWork hwork => exact .atWork (hk.mpr hwork)
    | after hcall hp hcaller hanswer =>
      obtain ⟨p', hcall', hp'⟩ := ended_step h hcall hp
      exact .after hcall' hp' hcaller hanswer

lemma Sound.step (hs : Sound c k reg f limit s) (h : Step c k reg f limit s s') :
    Sound c k reg f limit s' := by
  cases h with
  | opens channel value hk hx hq _ _ hf hcaller => exact hs.opens channel value hk hx hq hf hcaller
  | crew h hc => exact hs.crewStep h hc
  | ends hk hp hcaller h => exact hs.ends hk hp hcaller h
  | protocol h hf hk => exact hs.protocol h hf hk

lemma Sound.runs (hs : Sound c k reg f limit s) (h : Runs c k reg f limit s s') :
    Sound c k reg f limit s' := by
  induction h with
  | refl => exact hs
  | tail _ hstep ih => exact ih.step hstep

/-! ### Who is left -/

/-- When the driver has begun to go and somebody is left of a call, the call is over: it was late, or
it did not wait. -/
lemma Sound.late (hs : Sound c k reg f limit s) (hleaves : s.unload.driver ≠ .holds) {q : Worker}
    (hq : s.workers[i + 1]? = some q) (hleft : q.phase.finished = false) :
    (∃ t e o v p, s.workers[0]? = some ⟨t, .done (.call e true o)⟩ ∧ Outcome.failed ≤ o ∧
      s.told = [lateNote limit] ∧ s.unload.calls[k]? = some p ∧
      p.stage = .done (e.answer (.ok (Driver.resultFor o v)))) ∨
    ¬ limit.Timed ∧ ∃ t e p, s.workers[0]? = some ⟨t, .stranded e⟩ ∧
      s.unload.calls[k]? = some p ∧ p.stage = .done (.error untimed) := by
  have hne : s.workers ≠ [] := by
    intro hnobody
    rw [hnobody] at hq
    cases hq
  obtain ⟨main, hcrew⟩ := hs.crew hne
  obtain ⟨⟨t, φ⟩, hq₀, hcaller⟩ := hcrew.caller
  have hout {p : Unload.Call ρ} (hk : s.unload.calls[k]? = some p) : ¬ p.stage.Inside :=
    not_inside hs.unload hs.departed hleaves (List.mem_of_getElem? hk)
  cases hs.synced with
  | before hnobody => exact absurd hnobody hne
  | atWork hwork =>
    obtain ⟨p, hk, hwork⟩ := hwork
    exact absurd hwork.inside (hout hk)
  | @after p _ result hk hp hplace hanswer =>
    obtain rfl := Option.some.inj (hplace.symm.trans hq₀)
    have hdone : p.stage = .done result := by
      refine hp.resolve_left fun hended => hout hk ?_
      rw [hended]
      trivial
    cases hanswer with
    | @stranded e => exact .inr ⟨hcaller.untimed rfl, t, e, p, hplace, hk, hdone⟩
    | refused =>
      -- a call that was turned away has started nobody
      have hone := hs.alone _ hplace rfl
      have hlt := (List.getElem?_eq_some_iff.mp hq).1
      omega
    | @called e late o v =>
      cases late with
      | false =>
        have hfinished := hcaller.joined rfl i q hq
        rw [hleft] at hfinished
        cases hfinished
      | true =>
        exact .inl
          ⟨t, e, o, v, p, hplace, (hcaller.verdict e true o rfl).2 rfl, hcaller.told, hk, hdone⟩

lemma Runs.protocol {m : Unload.Mover} (h : Runs c k reg f limit s₀ { s with unload := u })
    (hstep : Unload.Step c u m u') (hcalls : u'.calls = u.calls)
    (hroster : u'.world.roster = u.world.roster) (hthreads : u'.world.threads = u.world.threads) :
    Runs c k reg f limit s₀ { s with unload := u' } :=
  h.tail (.protocol hstep (.of_roster hroster (by rw [hthreads])) (by rw [hcalls]))

/-- A driver whose lock no call holds lets go, whoever is left. -/
lemma Sound.disconnect (hs : Sound c k reg f limit s) (hd : s.unload.driver = .holds)
    (hidle : s.unload.inCount = 0) : ∃ w', Driver.disconnect c s.unload.world = (.ok (), w') ∧
      Runs c k reg f limit s
        { s with unload := { s.unload with world := w', driver := .gone } } := by
  obtain ⟨x, hx, hcalls⟩ := hs.unload.counted
  have hdisconnect := World.changeDevice_eq s.unload.world (·.disconnect c)
  refine ⟨_, hdisconnect, ?_⟩
  have hlocked : Runs c k reg f limit s { s with unload.driver := .locked } := by
    refine Runs.protocol .refl (.locks hd fun y hy => ?_) rfl rfl rfl
    obtain rfl := Option.some.inj (hx.symm.trans hy)
    rw [Connection.isIdle, hcalls, hidle]
    rfl
  have hcleared := hlocked.protocol (.clears rfl) rfl rfl rfl
  have hgone := hcleared.protocol (.unlocks rfl) rfl rfl rfl
  exact hgone.protocol (.elsewhere (Unload.untouched_disconnect hx)) rfl rfl rfl

/-! ### What the program does -/

/-- The threads of the call go on, and the device is in the end as they leave it. -/
lemma Runs.crew {t : Crew.State ρ ε} (h : Runs c k reg f limit s₀ s)
    (hrun : Crew.Runs reg f limit s.crew t) (hc : Untouched c s.unload.world t.world) :
    Runs c k reg f limit s₀ (s.advance t) := by
  let d := s.unload.world.device
  have hkeeping : ∀ t, Crew.Runs reg f limit s.crew t →
      Runs c k reg f limit s₀ (s.advance { t with world.device := d }) := by
    intro t hrun
    induction hrun with
    | refl => exact h
    | tail _ hstep ih => exact ih.tail (.crew (hstep.withDevice d) (.of_device rfl))
  exact (hkeeping t hrun).tail (.protocol (.elsewhere hc) (.of_roster rfl rfl) Iff.rfl)

/-- The state in which the call has come so far, in a world. -/
def State.reaching (s : State ρ ε) (k : Nat) (p : Unload.Call ρ) (w : World ρ ε) : State ρ ε :=
  { s with unload := s.unload.reaching k p w }

/-- The call takes a step on its way in or out. -/
lemma Runs.goes {σ : Unload.Stage ρ} (h : Runs c k reg f limit s₀ s)
    (hk : s.unload.calls[k]? = some p)
    (hlock : p.stage = .waits → ¬ s.unload.driver.Excludes)
    (hgo : Unload.Goes c p s.unload.world σ w') (hp : ¬ p.stage.Working) (hσ : ¬ σ.Working)
    (hroster : w'.roster = s.unload.world.roster) (hthreads : w'.threads = s.unload.world.threads) :
    Runs c k reg f limit s₀ (s.reaching k { p with stage := σ } w') := by
  refine h.tail (.protocol (.call hk hlock hgo)
    (.of_roster hroster (congrArg (·.items.size) hthreads)) ?_)
  have hk' := Places.getElem?_set_self hk { p with stage := σ }
  exact (atWork_iff hk').trans ((iff_of_false hσ hp).trans (atWork_iff hk).symm)

section

variable {exec : Routines ρ ε} {fixture routine : UInt16} {channel : ObserverId}
  {value : UInt64} {q : ρ}

/-- A call of a routine of a driver that is there takes its steps, and its threads take theirs in
between. -/
lemma called_runs {t : Crew.State ρ ε} {worker : Worker} {result : Unload.Result}
    (hk : s.unload.calls[k]? = some ⟨fixture, routine, .waits⟩)
    (hlock : ¬ s.unload.driver.Excludes) (hx : s.unload.world.device.get? c = some x)
    (hthere : x.available = true) (hq : x.routines.routine? fixture routine = some q)
    (hcaller : s.unload.world.current < s.unload.world.threads.items.size)
    (hrun : Crew.Runs x.registry s.unload.world.nextFilament x.joinLimit
      (Crew.calling (modified c .enter s.unload.world) channel value) t)
    (hc : Untouched c (modified c .enter s.unload.world) t.world)
    (hworker : t.workers[0]? = some worker) (hanswers : Answers worker.phase result) :
    Runs c k x.registry s.unload.world.nextFilament x.joinLimit s ((s.advance t).reaching k
      ⟨fixture, routine, .done result⟩ (modified c .leave t.world)) := by
  have hx₁ : (modified c .enter s.unload.world).device.get? c = some x.enter :=
    Unload.get?_modified hx _
  -- on the way in
  have hentered : Runs c k x.registry s.unload.world.nextFilament x.joinLimit s _ :=
    Runs.goes .refl hk (fun _ => hlock) .enters id id rfl rfl
  have hk₁ := Places.getElem?_set_self hk (⟨fixture, routine, .entered⟩ : Unload.Call ρ)
  have hadmitted := hentered.goes hk₁ (fun h => nomatch h)
    (.admitted ((Unload.isAvailable_eq hx₁).trans hthere)) id id rfl rfl
  have hk₂ := Places.getElem?_set_self hk₁ (⟨fixture, routine, .admitted⟩ : Unload.Call ρ)
  have hopened := hadmitted.tail (.opens channel value hk₂ hx₁ hq rfl rfl rfl hcaller)
  -- at work
  have hworked := Runs.crew hopened hrun hc
  have hk₃ := Places.getElem?_set_self hk₂ (⟨fixture, routine, .runs q⟩ : Unload.Call ρ)
  -- on the way out
  have hended := hworked.tail (.ends hk₃ trivial hworker hanswers)
  have hk₄ := Places.getElem?_set_self hk₃ (⟨fixture, routine, .ended result⟩ : Unload.Call ρ)
  have hdone := Runs.goes hended hk₄ (fun h => nomatch h) .leaves id id rfl rfl
  simpa only [State.reaching, Unload.State.reaching, State.advance, List.set_set] using hdone

/-- So does the program, whatever the routine does on the way and its threads do when it is over. -/
theorem call_runs (hk : s.unload.calls[k]? = some ⟨fixture, routine, .waits⟩)
    (hlock : ¬ s.unload.driver.Excludes) (hx : s.unload.world.device.get? c = some x)
    (hthere : x.available = true) (hq : x.routines.routine? fixture routine = some q)
    (hcaller : s.unload.world.current < s.unload.world.threads.items.size)
    (hbody : ∀ s₁, Crew.Runs x.registry s.unload.world.nextFilament x.joinLimit
        (Crew.calling (modified c .enter s.unload.world) channel value) s₁ →
      s₁.workers = [⟨s.unload.world.current, .runs⟩] →
      s₁.world.current = s.unload.world.current →
      ∃ s₂ result, Crew.Plays x.registry s.unload.world.nextFilament x.joinLimit 0 (exec q) s₁ s₂
        result)
    (hothers : ∀ s₁ e, Crew.Runs x.registry s.unload.world.nextFilament x.joinLimit
        (Crew.calling (modified c .enter s.unload.world) channel value) s₁ →
      s₁.world.current = s.unload.world.current →
      s₁.workers[0]? = some ⟨s.unload.world.current, .caught e⟩ →
      ∃ s₂, Crew.Stays x.registry s.unload.world.nextFilament x.joinLimit exec.others s₁ s₂)
    (hc : Untouched c (modified c .enter s.unload.world) (Driver.callProtected exec x.registry
      x.joinLimit q channel value (modified c .enter s.unload.world)).2) :
    ∃ (t : Crew.State ρ ε) (result : Unload.Result),
      (Driver.call exec c fixture routine channel value).attempt s.unload.world
        = (.ok result, modified c .leave t.world) ∧
      Runs c k x.registry s.unload.world.nextFilament x.joinLimit s ((s.advance t).reaching k
        ⟨fixture, routine, .done result⟩ (modified c .leave t.world)) := by
  obtain ⟨t, result, hprotected, hrun, hanswer⟩ := Crew.callProtected_runs
    (w := modified c .enter s.unload.world) hcaller hbody hothers
  have ht : t.world = (Driver.callProtected exec x.registry x.joinLimit q channel value
      (modified c .enter s.unload.world)).2 :=
    (congrArg Prod.snd hprotected).symm.trans (Flow.attempt_snd _ _)
  obtain ⟨worker, hworker, hanswers⟩ :
      ∃ worker, t.workers[0]? = some worker ∧ Answers worker.phase result := by
    rcases hanswer with ⟨why, hworker, rfl⟩ | ⟨e, hworker, rfl⟩ | ⟨e, late, o, v, hworker, rfl⟩
    · exact ⟨_, hworker, .refused⟩
    · exact ⟨_, hworker, .stranded⟩
    · exact ⟨_, hworker, .called v⟩
  exact ⟨t, result, Driver.attempt_call hx hthere hq hprotected,
    called_runs hk hlock hx hthere hq hcaller hrun (ht ▸ hc) hworker hanswers⟩

end

/-! ### Who outlives the driver -/

/-- Once a driver has begun to go, a thread that one of its routines started is left only if the call
of the routine gave up waiting: then the call is over, it has failed at least, and it has said once
that it gave up.  Where the clock cannot time its wait the call did not wait, and unwound.  And a
driver that nobody calls at the moment can go, whoever is left of its threads. -/
theorem left_only_late (h₀ : Opening c s₀) (h : Runs c k reg f limit s₀ s) :
    (s.unload.driver ≠ .holds → ∀ i q, s.workers[i + 1]? = some q → q.phase.finished = false →
      (∃ t e o v p, s.workers[0]? = some ⟨t, .done (.call e true o)⟩ ∧ Outcome.failed ≤ o ∧
        s.told = [lateNote limit] ∧ s.unload.calls[k]? = some p ∧
        p.stage = .done (e.answer (.ok (Driver.resultFor o v)))) ∨
      ¬ limit.Timed ∧ ∃ t e p, s.workers[0]? = some ⟨t, .stranded e⟩ ∧
        s.unload.calls[k]? = some p ∧ p.stage = .done (.error untimed)) ∧
    (s.unload.driver = .holds → s.unload.inCount = 0 →
      ∃ w', Driver.disconnect c s.unload.world = (.ok (), w') ∧ Runs c k reg f limit s
        { s with unload := { s.unload with world := w', driver := .gone } }) := by
  have hs : Sound c k reg f limit s := (Sound.opening h₀).runs h
  exact ⟨fun hleaves i q hq hleft => hs.late hleaves hq hleft, hs.disconnect⟩

section

-- the word that a call gave up is written into its channel
set_option maxRecDepth 1000

/-- What the routines of a driver keep: a child that was started, and whether the driver was there
whenever the child ran. -/
structure Notes where
  child : Option Child.Ticket := none
  seen : List Bool := []

/-- The sink of the driver. -/
def sink : Sink := ⟨Sink.version₃, 0⟩

/-- A routine that starts a child, and returns. -/
def launch : World.Act Unit Notes Unit := do
  match ← sink.startThread with
  | .ok child => World.changeStore fun n => { n with child }
  | .error _ => return ()

/-- What the child runs. -/
def look : World.Act Unit Notes Unit := do
  let there ← World.seeDevice (·.isAvailable 0)
  World.changeStore fun n => { n with seen := n.seen ++ [there] }

/-- A driver whose calls wait for no more than a millisecond. -/
def yard : Connection Unit where
  address := 8
  routines := ⟨#[⟨"Yard", #[⟨.testCase, "Launch", ()⟩]⟩]⟩
  registry := 0
  sinkVersion := Sink.version₃
  joinLimit := ⟨1000000⟩

/-- A world with this driver, and a channel for a call. -/
def yardWorld : World Unit Notes where
  roster := { registries := ⟨#[{ kind := .driver }]⟩ }
  observers := ⟨#[.channel (.make ⟨.proceed, .proceed⟩ 100)]⟩
  device := { connections := ⟨#[yard]⟩, entries := [(8, 0)] }
  store := {}

/-- The routine starts its child and returns, and the call gives up waiting for it. -/
lemma calling_runs_late : ∃ t, Crew.Runs 0 0 yard.joinLimit
      (Crew.calling (modified 0 .enter yardWorld) 0 0) t ∧
    t.workers = [⟨0, .done (.call ⟨.ok (), _, .returned⟩ true .failed)⟩, ⟨1, .runs⟩] ∧
    t.world.device = (modified 0 .enter yardWorld).device := by
  have h₁ : Crew.Runs 0 0 yard.joinLimit (Crew.calling (modified 0 .enter yardWorld) 0 0) _ :=
    .single (.goes (i := 0) rfl (.counts rfl))
  have h₂ := h₁.tail (.goes (i := 0) rfl (.sits rfl))
  have h₃ := h₂.tail (.goes (i := 0) rfl .begins)
  have h₄ := h₃.tail (.starts (i := 0) rfl rfl)
  -- the child
  have h₅ := h₄.tail (.goes (i := 1) rfl (.counts rfl))
  have h₆ := h₅.tail (.goes (i := 1) rfl (.sits rfl))
  have h₇ := h₆.tail (.goes (i := 1) rfl .begins)
  have h₈ := h₇.tail (.hears (i := 0) (j := 1) rfl rfl rfl)
  -- the call
  have h₉ := h₈.tail (.goes (i := 0) rfl (.ends (.ok ())))
  have h₁₀ := h₉.tail (.goes (i := 0) rfl (.catches ⟨.ok (), _, .returned⟩))
  have h₁₁ := h₁₀.tail (.goes (i := 0) rfl (.givesUpWaiting (by decide) rfl rfl))
  have h₁₂ := h₁₁.tail (.reports rfl rfl)
  have h₁₃ := h₁₂.tail (.goes (i := 0) rfl (.settlesLate rfl))
  have h₁₄ := h₁₃.tail (.goes (i := 0) rfl (.unbinds rfl rfl))
  exact ⟨_, h₁₄.tail (.goes (i := 0) rfl .releases), rfl, rfl⟩

/-- The driver is there, and nobody calls it. -/
def yardState : State Unit Notes where
  unload := { world := yardWorld }

/-- Somebody is about to call it. -/
def yardCall : State Unit Notes where
  unload := { world := yardWorld, calls := [⟨0, 0, .waits⟩] }

lemma opening_yard : Opening 0 yardState := ⟨⟨⟨_, rfl, rfl, rfl⟩, rfl, rfl⟩, rfl⟩

lemma yard_runs_call : Runs 0 0 0 0 yard.joinLimit yardState yardCall := by
  refine .single (.protocol .arrives (.of_roster rfl rfl) (iff_of_false ?_ ?_))
  · rintro ⟨p, hp, hwork⟩
    cases hp
    exact hwork
  · rintro ⟨p, hp, -⟩
    cases hp

/-- The call comes out and the driver goes, and the child is left, which runs. -/
theorem left_only_late_yard : ∃ s e o, Opening 0 yardState ∧
    Runs 0 0 0 0 yard.joinLimit yardState s ∧ s.unload.driver = .gone ∧
    s.workers[1]? = some ⟨1, .runs⟩ ∧ s.workers[0]? = some ⟨0, .done (.call e true o)⟩ ∧
    Outcome.failed ≤ o ∧ s.told = [lateNote yard.joinLimit] := by
  obtain ⟨t, hrun, hworkers, hdevice⟩ := calling_runs_late
  have hcalled := yard_runs_call.trans (called_runs (s := yardCall) (x := yard) rfl
    (fun h => by rcases h with h | h <;> cases h) rfl rfl rfl Nat.zero_lt_one hrun
    (.of_device hdevice) (by rw [hworkers]; rfl) (.called 0))
  obtain ⟨-, hgoes⟩ := left_only_late opening_yard hcalled
  obtain ⟨w, -, hgone⟩ := hgoes rfl rfl
  obtain ⟨hleft, -⟩ := left_only_late opening_yard (hcalled.trans hgone)
  have hchild : t.workers[1]? = some ⟨1, .runs⟩ := by
    rw [hworkers]
    rfl
  have htimed : yard.joinLimit.Timed := by decide
  obtain ⟨u, e, o, v, p, hcaller, ho, htold, -, -⟩ :=
    (hleft (fun h => nomatch h) 0 _ hchild rfl).resolve_right fun h => h.1 htimed
  have hplace : t.workers[0]? = some ⟨u, .done (.call e true o)⟩ := hcaller
  rw [hworkers] at hplace
  cases hplace
  exact ⟨_, _, _, opening_yard, hcalled.trans hgone, rfl, hchild, hcaller, ho, htold⟩

/-- After the call has returned, its child runs though the driver is gone. -/
theorem disconnect_leaves_child : ∃ child result w₁ w₂ w₃,
    Driver.call ⟨fun _ => launch, return ()⟩ 0 0 0 0 0 yardWorld = (.ok (.ok result), w₁) ∧
    result.completed = false ∧ w₁.store.child = some child ∧
    Driver.disconnect 0 w₁ = (.ok (), w₂) ∧ w₂.device.isAvailable 0 = false ∧
    Child.finish child look w₂ = (.ok none, w₃) ∧ w₃.store.seen = [false] :=
  ⟨_, _, _, _, _, rfl, rfl, rfl, rfl, rfl, rfl, rfl⟩

end

end Outlive

end Testbench
