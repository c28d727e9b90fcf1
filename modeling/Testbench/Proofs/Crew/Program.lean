import Testbench.Driver.Call
import Testbench.Proofs.Crew.Sound
import Testbench.Proofs.Waits

/-!
# What the program does

A thread that is not interrupted takes its steps one after the other: attaching and detaching it,
starting a child, running that to its end, and calling a routine are runs of the threads of the call.
What the routines do in between may be any run.
-/

namespace Testbench.Crew

open World

variable {ρ ε : Type} {reg : RegistryId} {f : FilamentId} {limit : Duration} {main : ThreadId}
  {before : Outcome} {s s₀ s₁ : State ρ ε} {i : Nat} {t u : ThreadId} {φ : Phase}
  {w w' : World ρ ε} {x : Filament}

/-! ### What does not touch the roster -/

lemma Spares.of_roster (hroster : w'.roster = w.roster)
    (hthreads : w'.threads.items.size = w.threads.items.size) : Spares reg f w w' where
  threads := Nat.le_of_eq hthreads.symm
  filament x hx := ⟨x, hroster ▸ hx, rfl, rfl, rfl⟩
  seats _ ht := hroster ▸ ht

lemma Spares.of_quiet (h : Quiet w w') : Spares reg f w w' := .of_roster h.roster h.threads

/-- A thread ends that the filament did not adopt. -/
lemma Spares.threadEnded (h : w.roster.AdoptsNobody f) (t : ThreadId) :
    Spares reg f w { w with roster := w.roster.threadEnded t } := by
  obtain ⟨hfilament, hseats, -⟩ := Roster.threadEnded_spec reg h t
  exact ⟨Nat.le_refl _, fun x hx => ⟨x, hfilament.trans hx, rfl, rfl, rfl⟩, hseats⟩

lemma Runs.quiet (h : Quiet s.world w) : Runs reg f limit s { s with world := w } :=
  .single (.elsewhere (.of_quiet h))

lemma enter_quietly (f : FilamentId) : Quietly (Boundary.enter f : Act ρ ε Bool) :=
  (Quietly.see _).bind fun _ => (Quietly.see _).bind fun _ =>
    (Quietly.changeThread _).bind fun _ => .pure _

lemma reportPanic_quietly (f : FilamentId) (i : Identity) (text : Option String)
    (left : Option StackTrace) :
    Quietly (Boundary.reportPanic f i text left : Act ρ ε Disposition) := by
  have htell (stack : Option StackTrace) : Quietly (do
      let o ← observerOf f
      inform o (·.unhandledException (panicMessage text))
      report o i ⟨.uncaughtException (panicMessage text), stack⟩ : Act ρ ε Disposition) :=
    (Quietly.see _).bind fun _ => (Quietly.tell _ _ _).bind fun _ => Quietly.tell _ _ _
  cases left with
  | none => exact (Quietly.stackFor f).bind htell
  | some stack => exact htell (some stack)

/-- Coming out of a boundary, a thread takes in what the end of its routine stands for. -/
lemma leave_stands (f : FilamentId) (i : Identity) (before : Bool) (result : Except Payload Unit)
    (w : World ρ ε) :
    ∃ caught w', Boundary.leave f i before result w = (.ok caught, w') ∧ Stands result caught ∧
      Quiet w w' := by
  rw [Boundary.leave, seeThread, Flow.bind_ok (Flow.see_apply _ w)]
  obtain ⟨_, w₁, hcells, hquiet⟩ := Quietly.changeThread
    (fun t => { t with panicStack := none, keepsPanicStack := before }) w
  rw [Flow.bind_ok hcells]
  cases result with
  | ok => exact ⟨_, w₁, rfl, .returned, hquiet⟩
  | error payload =>
    cases payload with
    | signal s => exact ⟨_, w₁, rfl, .signalled s, hquiet⟩
    | panic text =>
      obtain ⟨d, w₂, hreport, hquiet₂⟩ := reportPanic_quietly f i text
        ((w.threads.get? w.current).getD {}).panicStack w₁
      exact ⟨_, w₂, Flow.bind_ok hreport, .panicked text d, hquiet.trans hquiet₂⟩

/-! ### One worker -/

/-- The state after a worker came to a phase, in a world. -/
def State.move (s : State ρ ε) (i : Nat) (t : ThreadId) (φ : Phase) (w : World ρ ε) : State ρ ε :=
  { s with world := w, workers := s.workers.set i ⟨t, φ⟩ }

lemma State.move_self (hi : s.workers[i]? = some ⟨t, φ⟩) : s.move i t φ s.world = s := by
  obtain ⟨hlt, hget⟩ := List.getElem?_eq_some_iff.mp hi
  rw [State.move, ← hget, List.set_getElem_self]

lemma Runs.goes {φ' : Phase} (h : Runs reg f limit s₀ (s.move i t φ w)) (hlt : i < s.workers.length)
    (hgo : Goes reg f limit i ⟨t, φ⟩ w φ' w') : Runs reg f limit s₀ (s.move i t φ' w') := by
  have hi : (s.move i t φ w).workers[i]? = some ⟨t, φ⟩ :=
    Places.getElem?_set_self (List.getElem?_eq_getElem hlt) _
  have hstep := Step.goes hi hgo
  simp only [State.move, List.set_set] at hstep
  exact h.tail hstep

lemma Runs.spares (h : Runs reg f limit s₀ (s.move i t φ w)) (hspares : Spares reg f w w') :
    Runs reg f limit s₀ (s.move i t φ w') := h.tail (.elsewhere hspares)

/-- Something happens that has nothing to do with the roster. -/
lemma Runs.besides (h : Runs reg f limit s₀ (s.move i t φ w)) (w' : World ρ ε)
    (hroster : w'.roster = w.roster) (hthreads : w'.threads.items.size = w.threads.items.size) :
    Runs reg f limit s₀ (s.move i t φ w') := h.spares (.of_roster hroster hthreads)

/-- Where attaching gets a thread that only exists. -/
def Phase.attached : Except FilamentError Unit → Phase
  | .ok () => .bound
  | .error why => .refused why

/-- Where a thread gets once it has told how attaching went. -/
def Phase.answered : Except FilamentError Unit → Phase
  | .ok () => .runs
  | .error why => .gone (.filament why)

lemma Runs.answers {result : Except FilamentError Unit}
    (h : Runs reg f limit s₀ (s.move i t (.attached result) w)) (hlt : i < s.workers.length) :
    Runs reg f limit s₀ (s.move i t (.answered result) w) := by
  match result with
  | .ok () => exact h.goes hlt .begins
  | .error why => exact h.goes hlt .declines

/-- A thread attaches itself. -/
lemma Runs.attach (h : Runs reg f limit s₀ (s.move i t .outside w)) (hlt : i < s.workers.length)
    (ht : w.current = t) :
    ∃ result w', World.attach reg f w = (.ok result, w') ∧ w'.current = t ∧
      w'.roster.adoptions = w.roster.adoptions ∧
      Runs reg f limit s₀ (s.move i t (.attached result) w') := by
  subst ht
  let b : Binding := ⟨w.current, f, true⟩
  have hattach := withRegistry_eq w reg (·.attach reg b)
  refine ⟨_, _, hattach, rfl, w.roster.attach_adoptions reg b, ?_⟩
  rcases w.roster.attach_cases reg b with
    ⟨why, r₁, hfull, heq⟩ | ⟨r₁, hroom, ⟨r₂, hbind, heq⟩ | ⟨why, r₂, hconflict, heq⟩⟩ <;> rw [heq]
  · exact h.goes hlt (.full hfull)
  · have hcounted := h.goes hlt (.counts hroom)
    exact hcounted.goes hlt (.sits hbind)
  · have hcounted := h.goes hlt (.counts hroom)
    have haway := hcounted.goes hlt (.conflicts hconflict)
    exact haway.goes hlt .givesUp

/-- A thread that has what it takes to leave detaches itself. -/
lemma Runs.detach {e : Ending} (h : Runs reg f limit s₀ (s.move i t φ w))
    (hlt : i < s.workers.length) (ht : w.current = t) (hφ : φ.ending? = some e) :
    ∃ w', World.detach reg w = (.ok (), w') ∧ w'.current = t ∧
      w'.roster.adoptions = w.roster.adoptions ∧
      Runs reg f limit s₀ (s.move i t (.done e) w') := by
  subst ht
  have hdetach := withRegistry_eq w reg (fun r => ((), r.detach reg w.current))
  refine ⟨_, hdetach, rfl, w.roster.detach_adoptions reg w.current, ?_⟩
  rw [Roster.detach]
  cases hunbind : w.roster.onTable reg none (·.unbind w.current) with
  | mk b? r =>
    cases b? with
    | none => exact h.goes hlt (.unbindsNothing hφ hunbind)
    | some b =>
      have hunbound := h.goes hlt (.unbinds hφ hunbind)
      exact hunbound.goes hlt .releases

/-- A thread comes out of its boundary, whatever its observer says. -/
lemma Runs.leave {result : Except Payload Unit}
    (h : Runs reg f limit s₀ (s.move i t (.ended result) w)) (hlt : i < s.workers.length)
    (identity : Identity) (before : Bool) :
    ∃ e w', Boundary.leave f identity before result w = (.ok e.caught, w') ∧ e.result = result ∧
      Quiet w w' ∧ Runs reg f limit s₀ (s.move i t (.caught e) w') := by
  obtain ⟨caught, w', hleave, hstands, hquiet⟩ := leave_stands f identity before result w
  let e : Exit := ⟨result, caught, hstands⟩
  have hcaught := h.goes hlt (.catches e)
  exact ⟨e, w', hleave, rfl, hquiet, hcaught.besides w' hquiet.roster hquiet.threads⟩

lemma settle_of_join (hlimit : limit.Timed) (hx : w.roster.filaments.get? f = some x)
    (h : x.join limit = .ok ()) (identity : Identity) (o : Outcome) :
    Boundary.settle f identity limit o w = (.ok (o.worst x.childOutcome), w) := by
  rw [Boundary.settle, Flow.bind_ok (joinChildren_eq hlimit hx), h]
  simp only [pure_bind]
  exact Flow.bind_ok (seeFilament_eq hx _ _)

lemma settle_of_not_join (hlimit : limit.Timed) (hx : w.roster.filaments.get? f = some x)
    {why : FilamentError} (h : x.join limit = .error why) (identity : Identity) (o : Outcome) :
    Boundary.settle f identity limit o w = (.ok ((o.worst .failed).worst x.childOutcome),
      (World.report x.observer identity (lateNote limit) w).2) := by
  let w' := (World.report x.observer identity (lateNote limit) w).2
  have hreport : World.report x.observer identity (lateNote limit) w = (.ok _, w') := rfl
  have hx' : w'.roster.filaments.get? f = some x := hx
  rw [Boundary.settle, Flow.bind_ok (joinChildren_eq hlimit hx), h]
  simp only [pure_bind]
  rw [Flow.bind_ok (observerOf_eq hx)]
  exact (Flow.bind_ok hreport).trans (Flow.bind_ok (seeFilament_eq hx' _ _))

/-- The call waits for its threads and takes their outcomes in. -/
lemma Runs.settle (hs : Sound reg f limit main before s₀) (hlimit : limit.Timed) {e : Exit}
    (h : Runs reg f limit s₀ (s.move 0 t (.caught e) w)) (hlt : 0 < s.workers.length) :
    ∃ late o s', Boundary.settle f ⟨main, t⟩ limit e.caught.toOutcome w = (.ok o, s'.world) ∧
      Quiet w s'.world ∧ s'.workers = s.workers.set 0 ⟨t, .settled e late o⟩ ∧
      Runs reg f limit s₀ s' := by
  obtain ⟨x, hx, hfilament⟩ := (hs.runs h).filament
  obtain rfl := hfilament.mainThread
  cases hjoin : x.join limit with
  | ok =>
    let o := e.caught.toOutcome.worst x.childOutcome
    have hsettled : Runs reg f limit s₀ (s.move 0 t (.settled e false o) w) :=
      (h.goes hlt (.joins hlimit hx hjoin)).goes hlt (.settles hx)
    exact ⟨false, o, s.move 0 t (.settled e false o) w, settle_of_join hlimit hx hjoin _ _,
      .refl w, rfl, hsettled⟩
  | error why =>
    have hoverdue := h.goes hlt (.givesUpWaiting hlimit hx hjoin)
    have hcaller : (s.move 0 t (.overdue e) w).workers[0]? = some ⟨t, .overdue e⟩ :=
      Places.getElem?_set_self (List.getElem?_eq_getElem hlt) _
    have hreported := hoverdue.tail (.reports hcaller hx)
    have hcaller' := Places.getElem?_set_self hcaller ⟨t, .reported e⟩
    refine ⟨true, _, _, settle_of_not_join hlimit hx hjoin _ _, ⟨rfl, rfl, rfl⟩, ?_,
      hreported.tail (.goes hcaller' (.settlesLate hx))⟩
    simp only [State.move, List.set_set]

/-! ### Child threads -/

/-- A child attaches itself and says so. -/
lemma Runs.enrol (h : Runs reg f limit s₀ (s.move i t .outside w)) (hlt : i < s.workers.length)
    (ht : w.current = t) :
    ∃ result w', Child.enrol reg f w = (.ok result, w') ∧
      w'.roster.adoptions = w.roster.adoptions ∧
      Runs reg f limit s₀ (s.move i t (.attached result) w') := by
  obtain ⟨result, w₁, hattach, -, hadoptions, hruns⟩ := h.attach hlt ht
  rw [Child.enrol, Flow.bind_ok hattach]
  match result with
  | .error why => exact ⟨_, w₁, rfl, hadoptions, hruns⟩
  | .ok () =>
    exact ⟨.ok (), _, rfl, hadoptions, hruns.besides _ rfl rfl⟩

/-- The state in which a worker waits for a thread, which came to a phase. -/
def State.starting (s : State ρ ε) (i : Nat) (t u : ThreadId) (φ : Phase) (w : World ρ ε) :
    State ρ ε :=
  { s with world := w, workers := s.workers.set i ⟨t, .awaits u⟩ ++ [⟨u, φ⟩] }

lemma State.move_starting (s : State ρ ε) (i : Nat) (t u : ThreadId) (φ φ' : Phase)
    (w w' : World ρ ε) :
    (s.starting i t u φ w).move s.workers.length u φ' w' = s.starting i t u φ' w' := by
  have hlength : (s.workers.set i ⟨t, .awaits u⟩).length ≤ s.workers.length :=
    Nat.le_of_eq List.length_set
  simp only [State.starting, State.move, List.set_append_right _ _ hlength, List.length_set,
    Nat.sub_self, List.set_cons_zero]

lemma State.length_lt_starting (s : State ρ ε) (i : Nat) (t u : ThreadId) (φ : Phase)
    (w : World ρ ε) : s.workers.length < (s.starting i t u φ w).workers.length := by
  rw [State.starting, List.length_append, List.length_set]
  exact Nat.lt_succ_self _

/-- The worker hears what became of the thread, and goes on. -/
lemma Runs.hears (h : Runs reg f limit s₀ (s.starting i t u φ w))
    (hi : s.workers[i]? = some ⟨t, .runs⟩) (harrived : φ.arrived = true) :
    Runs reg f limit s₀ { s with world := w, workers := s.workers ++ [⟨u, φ⟩] } := by
  obtain ⟨hlt, hget⟩ := List.getElem?_eq_some_iff.mp hi
  have hlt' : i < (s.workers.set i ⟨t, .awaits u⟩).length := by rwa [List.length_set]
  have hwaits : (s.starting i t u φ w).workers[i]? = some ⟨t, .awaits u⟩ := by
    rw [State.starting, List.getElem?_append_left hlt']
    exact Places.getElem?_set_self hi _
  have hthere : (s.starting i t u φ w).workers[s.workers.length]? = some ⟨u, φ⟩ := by
    rw [State.starting, List.getElem?_append_right (Nat.le_of_eq List.length_set), List.length_set,
      Nat.sub_self]
    rfl
  have hstep := h.tail (.hears hwaits hthere harrived)
  have hback : (s.workers.set i ⟨t, .awaits u⟩ ++ [(⟨u, φ⟩ : Worker)]).set i ⟨t, .runs⟩
      = s.workers ++ [⟨u, φ⟩] := by
    rw [List.set_append_left _ _ hlt', List.set_set, ← hget, List.set_getElem_self]
  simp only [State.starting, hback] at hstep
  exact hstep

/-- The thread attaches itself, as far as that goes, and the worker hears how it went. -/
lemma Runs.arrives (h : Runs reg f limit s₀ (s.starting i t u .outside w))
    (hi : s.workers[i]? = some ⟨t, .runs⟩) :
    ∃ result w', asThread u (Child.enrol reg f) w = (.ok result, w') ∧
      w'.current = w.current ∧ w'.roster.adoptions = w.roster.adoptions ∧
      Runs reg f limit s₀ { s with
        world := w'
        workers := s.workers ++ [⟨u, .answered result⟩] } := by
  have hlt := s.length_lt_starting i t u .outside w
  rw [← State.move_starting s i t u .outside .outside w w] at h
  obtain ⟨result, w₁, henrol, hadoptions, hruns⟩ :=
    (h.besides { w with current := u } rfl rfl).enrol hlt rfl
  have hback := (hruns.besides { w₁ with current := w.current } rfl rfl).answers hlt
  rw [State.move_starting] at hback
  have harrived : (Phase.answered result).arrived = true := by
    match result with
    | .ok () => rfl
    | .error why => rfl
  exact ⟨result, _, asThread_ok henrol, rfl, hadoptions, hback.hears hi harrived⟩

/-- A worker knows its filament. -/
lemma membership_of_seated (h : w.roster.Seated reg f w.current) :
    ∃ m w', membership reg false w = (.ok (.ok m), w') ∧ m.filament = f ∧ Quiet w w' := by
  obtain ⟨m, hm, hfilament⟩ := Roster.current_of_seated h false
  have hmember := withRegistry_eq w reg (·.current reg w.current false)
  rw [hm] at hmember
  exact ⟨m, _, hmember, hfilament, .refl w⟩

/-- Who comes into the call when a child is started. -/
def newcomers (u : ThreadId) : Except Child.SpawnError Child.Ticket → List Worker
  | .ok _ => [⟨u, .runs⟩]
  | .error (.refused _) => []
  | .error why => [⟨u, .gone why⟩]

/-- A worker starts a child: whatever the observer says, and whether or not the filament and the table
have room, the child comes into the call as far as it gets, and the worker goes on. -/
theorem start_runs (hs : Sound reg f limit main before s)
    (hi : s.workers[i]? = some ⟨s.world.current, .runs⟩)
    (hadopts : s.world.roster.AdoptsNobody f) :
    ∃ result w', Child.start reg s.world = (.ok result, w') ∧ w'.current = s.world.current ∧
      w'.roster.AdoptsNobody f ∧
      (∀ k, result = .ok k → k = ⟨s.world.threads.items.size, reg, f⟩) ∧
      Runs reg f limit s { s with
        world := w'
        workers := s.workers ++ newcomers s.world.threads.items.size result } := by
  obtain ⟨x, hx, -⟩ := hs.filament
  obtain ⟨m, w₁, hmember, rfl, hquiet₁⟩ :=
    membership_of_seated ((hs.fits _ (List.mem_of_getElem? hi)).seat rfl)
  have hx₁ : w₁.roster.filaments.get? m.filament = some x := hquiet₁.roster ▸ hx
  obtain ⟨answer, w₂, hask, hquiet₂⟩ :=
    Quietly.tell x.observer .started (fun o => (o.threadStart, o)) w₁
  have hquiet : Quiet s.world w₂ := hquiet₁.trans hquiet₂
  have hasked : Runs reg m.filament limit s { s with world := w₂ } := .quiet hquiet
  have hadopts₂ : w₂.roster.AdoptsNobody m.filament := hquiet.roster ▸ hadopts
  -- a thread that is made has the next name
  let u : ThreadId := s.world.threads.items.size
  obtain ⟨w₃, hnew, hw₃, hcurrent⟩ : ∃ w₃, newThread w₂ = (.ok u, w₃) ∧ w₃.roster = w₂.roster ∧
      w₃.current = w₂.current := by
    refine ⟨{ w₂ with threads := (w₂.threads.add {}).2 }, ?_, rfl, rfl⟩
    exact Prod.ext (congrArg Except.ok hquiet.threads) rfl
  have hcurrent₃ : w₃.current = s.world.current := hcurrent.trans hquiet.current
  have hadopts₃ : w₃.roster.AdoptsNobody m.filament := hw₃ ▸ hadopts₂
  have hstarted : Runs reg m.filament limit s (s.starting i s.world.current u .outside w₃) :=
    hasked.tail (.starts hi hnew)
  rw [Child.start, Flow.bind_ok hmember]
  dsimp only
  rw [Flow.bind_ok (observerOf_eq hx₁), Flow.bind_ok hask]
  match answer with
  | .refused why =>
    refine ⟨_, w₂, rfl, hquiet.current, hadopts₂, fun k h => (nomatch h), ?_⟩
    rw [newcomers, List.append_nil]
    exact hasked
  | .dropped =>
    have hplace : s.workers.length ≠ 0 :=
      Nat.ne_of_gt (Nat.lt_of_le_of_lt (Nat.zero_le i) (List.getElem?_eq_some_iff.mp hi).1)
    rw [← State.move_starting s i s.world.current u .outside .outside w₃ w₃] at hstarted
    have hlost := hstarted.goes (s.length_lt_starting ..) (.drops hplace)
    rw [State.move_starting] at hlost
    refine ⟨_, _, Flow.bind_ok hnew, hcurrent₃, hadopts₃.threadEnded u, fun k h => (nomatch h), ?_⟩
    exact (hlost.hears hi rfl).tail (.elsewhere (.threadEnded hadopts₃ u))
  | .started =>
    obtain ⟨result, w₄, henrol, hcurrent₄, hadoptions, hruns⟩ := hstarted.arrives hi
    have hadopts₄ : w₄.roster.AdoptsNobody m.filament := by
      rw [Roster.AdoptsNobody, hadoptions]
      exact hadopts₃
    dsimp only
    rw [Flow.bind_ok hnew, Flow.bind_ok henrol]
    match result with
    | .ok () =>
      refine ⟨_, w₄, rfl, hcurrent₄.trans hcurrent₃, hadopts₄, fun k h => ?_, hruns⟩
      cases h
      rfl
    | .error why =>
      refine ⟨.error (.filament why), _, rfl, hcurrent₄.trans hcurrent₃, hadopts₄.threadEnded u,
        fun k h => (nomatch h), ?_⟩
      exact hruns.tail (.elsewhere (.threadEnded hadopts₄ u))

/-- A routine that a worker runs, and that ends in the state `s₁`: what it does on the way may be any
run of the threads of the call. -/
structure Plays (reg : RegistryId) (f : FilamentId) (limit : Duration) (i : Nat)
    (routine : Act ρ ε Unit) (s s₁ : State ρ ε) (result : Except Payload Unit) : Prop where
  attempt : routine.attempt s.world = (.ok result, s₁.world)
  runs : Runs reg f limit s s₁
  current : s₁.world.current = s.world.current
  there : s₁.workers[i]? = some ⟨s.world.current, .runs⟩
  adopts : s₁.world.roster.AdoptsNobody f

/-- A routine that starts no threads may do what it likes, as long as it leaves the counts, the noted
outcomes and the seats of the filament alone. -/
lemma Plays.of_spares {routine : Act ρ ε Unit} {result : Except Payload Unit}
    (hi : s.workers[i]? = some ⟨s.world.current, .runs⟩)
    (h : routine.attempt s.world = (.ok result, w)) (hspares : Spares reg f s.world w)
    (hcurrent : w.current = s.world.current) (hadopts : w.roster.AdoptsNobody f) :
    Plays reg f limit i routine s { s with world := w } result where
  attempt := h
  runs := .single (.elsewhere hspares)
  current := hcurrent
  there := hi
  adopts := hadopts

/-- One that returns at once does so. -/
example (hi : s.workers[i]? = some ⟨s.world.current, .runs⟩)
    (hadopts : s.world.roster.AdoptsNobody f) :
    Plays reg f limit i (return ()) s s (.ok ()) :=
  .of_spares hi rfl (.of_quiet (.refl _)) rfl hadopts

/-- What a child does last: it takes in how its function ended, notes it and leaves. -/
lemma Runs.conclude {result : Except Payload Unit}
    (h : Runs reg f limit s₀ (s.move (i + 1) t (.ended result) w)) (hlt : i + 1 < s.workers.length)
    (ht : w.current = t) (before : Bool) :
    ∃ e w', Child.conclude ⟨t, reg, f⟩ before result w = (.ok e.caught.payload?, w') ∧
      e.result = result ∧ w'.roster.adoptions = w.roster.adoptions ∧
      Runs reg f limit s₀ (s.move (i + 1) t (.done (.child e)) w') := by
  obtain ⟨identity, hidentity⟩ : ∃ identity, identityIn f w = (.ok identity, w) := ⟨_, rfl⟩
  obtain ⟨e, w₁, hleave, hresult, hquiet, hcaught⟩ := h.leave hlt identity before
  obtain ⟨o, ho⟩ : ∃ o, observerOf f w₁ = (.ok o, w₁) := ⟨_, rfl⟩
  let w₂ : World ρ ε := (inform o (·.childFinished identity) w₁).2
  have hinform : inform o (·.childFinished identity) w₁ = (.ok (), w₂) := rfl
  have hcurrent : w₂.current = t := hquiet.current.trans ht
  have hadoptions : w₂.roster.adoptions = w.roster.adoptions :=
    congrArg Roster.adoptions hquiet.roster
  have htold := hcaught.besides w₂ rfl rfl
  rw [Child.conclude, Flow.bind_ok hidentity, Flow.bind_ok hleave]
  rw [Flow.bind_ok ho, Flow.bind_ok hinform]
  cases hout : e.caught with
  | outcome o =>
    let w₃ : World ρ ε := { w₂ with
      roster.filaments := w₂.roster.filaments.modify f (·.note o) }
    have hnote : changeFilament f (·.note o) w₂ = (.ok (), w₃) := rfl
    have hnoted := htold.goes hlt (.notes (by rw [Exit.note?, hout]))
    obtain ⟨w₄, hdetach, -, hadoptions₄, hover⟩ := hnoted.detach hlt hcurrent rfl
    refine ⟨e, w₄, ?_, hresult, hadoptions₄.trans hadoptions, hover⟩
    rw [hout]
    exact (Flow.bind_ok hnote).trans (Flow.bind_ok hdetach)
  | reraise payload =>
    have hnoted := htold.goes hlt (.passesOn (by rw [Exit.note?, hout]))
    obtain ⟨w₄, hdetach, -, hadoptions₄, hover⟩ := hnoted.detach hlt hcurrent rfl
    refine ⟨e, w₄, ?_, hresult, hadoptions₄.trans hadoptions, hover⟩
    rw [hout]
    exact Flow.bind_ok hdetach

/-- A child that runs to its end, whatever its function does on the way. -/
theorem finish_runs {routine : Act ρ ε Unit}
    (hbody : ∀ w, Quiet { s.world with current := t } w →
      ∃ s₁ result, Plays reg f limit (i + 1) routine { s with world := w } s₁ result) :
    ∃ s' e, Child.finish ⟨t, reg, f⟩ routine s.world = (.ok e.caught.payload?, s'.world) ∧
      s'.world.current = s.world.current ∧ s'.world.roster.AdoptsNobody f ∧
      s'.workers[i + 1]? = some ⟨t, .done (.child e)⟩ ∧ Runs reg f limit s s' := by
  let w₀ : World ρ ε := { s.world with current := t }
  obtain ⟨before, w₁, henter, hquiet⟩ := enter_quietly f w₀
  obtain ⟨s₁, result, hplays⟩ := hbody w₁ hquiet
  have hcurrent : w₁.current = t := hquiet.current
  have hthere : s₁.workers[i + 1]? = some ⟨t, .runs⟩ := by
    rw [hplays.there, hcurrent]
  have hlt : i + 1 < s₁.workers.length := (List.getElem?_eq_some_iff.mp hthere).1
  have hentered : Runs reg f limit s { s with world := w₁ } :=
    .single (.elsewhere (.of_roster hquiet.roster hquiet.threads))
  have hplayed : Runs reg f limit s (s₁.move (i + 1) t .runs s₁.world) := by
    rw [State.move_self hthere]
    exact hentered.trans hplays.runs
  obtain ⟨e, w₂, hconclude, -, hadoptions, hover⟩ :=
    (hplayed.goes hlt (.ends result)).conclude hlt (hplays.current.trans hcurrent) before
  have hlife : asThread t (do
      let before ← Boundary.enter f
      let result ← routine.attempt
      Child.conclude ⟨t, reg, f⟩ before result) s.world = (.ok e.caught.payload?, _) :=
    asThread_ok ((Flow.bind_ok henter).trans ((Flow.bind_ok hplays.attempt).trans hconclude))
  let w₃ : World ρ ε := { w₂ with current := s.world.current }
  have hadopts : w₃.roster.AdoptsNobody f := by
    rw [Roster.AdoptsNobody, hadoptions]
    exact hplays.adopts
  let w₄ : World ρ ε := { w₃ with roster := w₃.roster.threadEnded t }
  have hended := (hover.besides w₃ rfl rfl).spares (.threadEnded hadopts t)
  refine ⟨s₁.move (i + 1) t (.done (.child e)) w₄, e, ?_, rfl,
    hadopts.threadEnded t, Places.getElem?_set_self hthere _, hended⟩
  rw [Child.finish, Flow.bind_ok hlife]
  rfl

/-! ### The call -/

/-- The calling thread runs its routine under the boundary, whatever the routine does on the way. -/
lemma Runs.guard (h : Runs reg f limit s₀ s) (ht : s.world.current = t) {routine : Act ρ ε Unit}
    (hbody : ∀ w, Quiet s.world w →
      ∃ s₁ result, Plays reg f limit i routine { s with world := w } s₁ result)
    (identity : Identity) :
    ∃ (e : Exit) (s₁ : State ρ ε) (w' : World ρ ε),
      Boundary.guard f identity routine s.world = (.ok e.caught, w') ∧ w'.current = t ∧
      i < s₁.workers.length ∧ Runs reg f limit s₀ (s₁.move i t (.caught e) w') := by
  obtain ⟨before, w₁, henter, hquiet⟩ := enter_quietly f s.world
  obtain ⟨s₁, result, hplays⟩ := hbody w₁ hquiet
  have hcurrent : w₁.current = t := hquiet.current.trans ht
  have hthere : s₁.workers[i]? = some ⟨t, .runs⟩ := by
    rw [hplays.there, hcurrent]
  have hlt : i < s₁.workers.length := (List.getElem?_eq_some_iff.mp hthere).1
  have hplayed : Runs reg f limit s₀ (s₁.move i t .runs s₁.world) := by
    rw [State.move_self hthere]
    exact (h.trans (Runs.quiet hquiet)).trans hplays.runs
  obtain ⟨e, w₂, hleave, -, hquiet₂, hcaught⟩ :=
    (hplayed.goes hlt (.ends result)).leave hlt identity before
  refine ⟨e, s₁, w₂, ?_, hquiet₂.current.trans (hplays.current.trans hcurrent), hlt, hcaught⟩
  rw [Boundary.guard, Flow.bind_ok henter, Flow.bind_ok hplays.attempt, hleave]

/-- Something is done while the calling thread stays where it is in its call: it may be any run of the
threads of the call. -/
structure Stays (reg : RegistryId) (f : FilamentId) (limit : Duration) (m : Act ρ ε Unit)
    (s s₁ : State ρ ε) : Prop where
  attempt : ∃ ended, m.attempt s.world = (.ok ended, s₁.world)
  runs : Runs reg f limit s s₁
  current : s₁.world.current = s.world.current
  caller : s₁.workers[0]? = s.workers[0]?

lemma Stays.pure (s : State ρ ε) : Stays reg f limit (Pure.pure ()) s s := ⟨⟨_, rfl⟩, .refl, rfl, rfl⟩

/-- The steps of a call, one after the other: attaching, the routine under its boundary, the wait for
the threads, and detaching.  After the boundary the threads may go on for a while.  A call that
cannot time its wait gets no further. -/
lemma called_runs (hs : Sound reg f limit main before s)
    (hi : s.workers[0]? = some ⟨s.world.current, .outside⟩) {routine : Act ρ ε Unit}
    (hbody : ∀ s₁, Runs reg f limit s s₁ → s₁.workers = s.workers.set 0 ⟨s.world.current, .runs⟩ →
      s₁.world.current = s.world.current → ∃ s₂ result, Plays reg f limit 0 routine s₁ s₂ result)
    {between : World ρ ε → Act ρ ε Unit}
    (hbetween : ∀ w s₁ e, Runs reg f limit s s₁ → s₁.world.current = s.world.current →
      s₁.workers[0]? = some ⟨s.world.current, .caught e⟩ →
      ∃ s₂, between w s₁.world = (.ok (), s₂.world) ∧ Stays reg f limit (between w) s₁ s₂) :
    (∃ why s', attach reg f s.world = (.ok (.error why), s'.world) ∧ Runs reg f limit s s' ∧
        s'.workers[0]? = some ⟨s.world.current, .gone (.filament why)⟩) ∨
      ∃ (e : Exit) (w₁ w₂ w₃ : World ρ ε) (s' : State ρ ε),
        attach reg f s.world = (.ok (.ok ()), w₁) ∧
        identityIn f w₁ = (.ok ⟨main, s.world.current⟩, w₁) ∧
        Boundary.guard f ⟨main, s.world.current⟩ routine w₁ = (.ok e.caught, w₂) ∧
        between w₁ w₂ = (.ok (), w₃) ∧ Runs reg f limit s s' ∧
        ((¬ limit.Timed ∧ s'.world = w₃.panicked ∧
            s'.workers[0]? = some ⟨s.world.current, .stranded e⟩) ∨
          ∃ late o w₄,
            Boundary.settle f ⟨main, s.world.current⟩ limit e.caught.toOutcome w₃ = (.ok o, w₄) ∧
            detach reg w₄ = (.ok (), s'.world) ∧
            s'.workers[0]? = some ⟨s.world.current, .done (.call e late o)⟩) := by
  have hlt : 0 < s.workers.length := (List.getElem?_eq_some_iff.mp hi).1
  have houtside : Runs reg f limit s (s.move 0 s.world.current .outside s.world) := by
    rw [State.move_self hi]
    exact .refl
  obtain ⟨attached, w₁, hattach, hcurrent, -, hruns⟩ := houtside.attach hlt rfl
  have hanswered := hruns.answers hlt
  match attached with
  | .error why => exact .inl ⟨why, _, hattach, hanswered, Places.getElem?_set_self hi _⟩
  | .ok () =>
    obtain ⟨x, hx, hfilament⟩ := (hs.runs hanswered).filament
    have hidentity : identityIn f w₁ = (.ok ⟨main, s.world.current⟩, w₁) := by
      rw [← hfilament.mainThread, ← hcurrent]
      exact identityIn_eq hx
    obtain ⟨e, s₂, w₂, hguard, hcurrent₂, hlt₂, hcaught⟩ := Runs.guard hanswered hcurrent
      (fun w hquiet => hbody _ (hanswered.trans (Runs.quiet hquiet)) rfl
        (hquiet.current.trans hcurrent)) ⟨main, s.world.current⟩
    obtain ⟨s₃, hdone, hstays⟩ := hbetween w₁ _ e hcaught hcurrent₂
      (Places.getElem?_set_self (List.getElem?_eq_getElem hlt₂) _)
    have hcaller : s₃.workers[0]? = some ⟨s.world.current, .caught e⟩ := by
      rw [hstays.caller]
      exact Places.getElem?_set_self (List.getElem?_eq_getElem hlt₂) _
    have hlt₃ : 0 < s₃.workers.length := (List.getElem?_eq_some_iff.mp hcaller).1
    have hwaits : Runs reg f limit s (s₃.move 0 s.world.current (.caught e) s₃.world) := by
      rw [State.move_self hcaller]
      exact hcaught.trans hstays.runs
    by_cases hlimit : limit.Timed
    case neg =>
      have hpanicked := quiet_panicked s₃.world
      have hstranded := (hwaits.goes hlt₃ (.strands hlimit)).besides _ hpanicked.roster
        hpanicked.threads
      exact .inr ⟨e, w₁, w₂, s₃.world, _, hattach, hidentity, hguard, hdone, hstranded,
        .inl ⟨hlimit, rfl, Places.getElem?_set_self hcaller _⟩⟩
    obtain ⟨late, o, s₄, hsettle, hquiet₄, hworkers, hsettled⟩ := hwaits.settle hs hlimit hlt₃
    have hplace : s₄.workers[0]? = some ⟨s.world.current, .settled e late o⟩ := by
      rw [hworkers]
      exact Places.getElem?_set_self hcaller _
    have hlt₄ : 0 < s₄.workers.length := (List.getElem?_eq_some_iff.mp hplace).1
    rw [← State.move_self hplace] at hsettled
    obtain ⟨w₅, hdetach, -, -, hover⟩ := hsettled.detach hlt₄
      (hquiet₄.current.trans (hstays.current.trans hcurrent₂)) rfl
    exact .inr ⟨e, w₁, w₂, s₃.world, _, hattach, hidentity, hguard, hdone, hover,
      .inr ⟨late, o, s₄.world, hsettle, hdetach, Places.getElem?_set_self hplace _⟩⟩

/-- What comes of a call, unless the unwind of its routine goes on. -/
def Exit.answer {α : Type} (e : Exit) (a : α) : Except Payload α :=
  match e.caught.payload? with
  | none => .ok a
  | some payload => .error payload

lemma attempt_goOn {α : Type} (e : Exit) (a : α) {m : Act ρ ε α}
    (h : m w = (do Boundary.goOn e.caught.payload?; return a : Act ρ ε α) w') :
    m.attempt w = (.ok (e.answer a), w') := by
  rw [Flow.attempt, h, Exit.answer]
  cases e.caught.payload? <;> rfl

/-- A thread calls a routine in a filament, whatever the routine does on the way. -/
theorem call_runs (hs : Sound reg f limit main before s)
    (hi : s.workers[0]? = some ⟨s.world.current, .outside⟩) {routine : Act ρ ε Unit}
    (hbody : ∀ s₁, Runs reg f limit s s₁ → s₁.workers = s.workers.set 0 ⟨s.world.current, .runs⟩ →
      s₁.world.current = s.world.current → ∃ s₂ result, Plays reg f limit 0 routine s₁ s₂ result) :
    ∃ s' result, (Boundary.call reg f limit routine).attempt s.world = (.ok result, s'.world) ∧
      Runs reg f limit s s' ∧
      ((∃ why, s'.workers[0]? = some ⟨s.world.current, .gone (.filament why)⟩ ∧
          result = .ok (.error why)) ∨
        (∃ e, s'.workers[0]? = some ⟨s.world.current, .stranded e⟩ ∧ result = .error untimed) ∨
        ∃ e late o, s'.workers[0]? = some ⟨s.world.current, .done (.call e late o)⟩ ∧
          result = e.answer (.ok o)) := by
  rcases called_runs hs hi hbody (fun _ s₁ _ _ _ _ => ⟨s₁, rfl, .pure s₁⟩) with
    ⟨why, s', hattach, hruns, hgone⟩ |
      ⟨e, w₁, w₂, w₃, s', hattach, hidentity, hguard, hdone, hruns, hwait⟩
  · refine ⟨s', _, Flow.attempt_ok ?_, hruns, .inl ⟨why, hgone, rfl⟩⟩
    rw [Boundary.call, Flow.bind_ok hattach]
    rfl
  cases hdone
  rcases hwait with ⟨hlimit, hworld, hstranded⟩ | ⟨late, o, w₄, hsettle, hdetach, hover⟩
  · refine ⟨s', _, ?_, hruns, .inr (.inl ⟨e, hstranded, rfl⟩)⟩
    rw [hworld, Boundary.call, Flow.attempt_bind_ok (Flow.attempt_ok hattach)]
    dsimp only
    rw [Flow.attempt_bind_ok (Flow.attempt_ok hidentity),
      Flow.attempt_bind_ok (Flow.attempt_ok hguard)]
    exact Boundary.attempt_settle_untimed hlimit ..
  · refine ⟨s', _, attempt_goOn e (.ok o) ?_, hruns, .inr (.inr ⟨e, late, o, hover, rfl⟩)⟩
    rw [Boundary.call, Flow.bind_ok hattach]
    dsimp only
    rw [Flow.bind_ok hidentity, Flow.bind_ok hguard, Flow.bind_ok hsettle, Flow.bind_ok hdetach]

lemma restoreLevel_quietly (channel : ObserverId) (entry : Irql) :
    Quietly (Driver.restoreLevel channel entry : Act ρ ε Unit) := by
  refine (Quietly.see _).bind fun exit => ?_
  split
  · exact (Quietly.tell _ _ _).bind fun _ => .changeThread _
  · exact .pure _

/-- The running thread is about to call a routine of a driver, in a filament of its own. -/
def calling (w : World ρ ε) (channel : ObserverId) (value : UInt64) : State ρ ε :=
  let (f, roster) := w.roster.newFilament channel {} w.current
  { world := { w with
      roster := { roster with filaments := roster.filaments.modify f (·.setValue .ordinary value) } }
    workers := [⟨w.current, .outside⟩] }

lemma opening_calling (hw : w.current < w.threads.items.size) (channel : ObserverId)
    (value : UInt64) : Opening w.nextFilament .completed (calling w channel value) where
  filament := ⟨_, Pool.get?_modify_self _ (Pool.get?_add_self _ _), rfl, rfl, hw⟩
  caller := ⟨w.current, rfl, hw⟩
  told := rfl

/-- The end of the call of a driver's routine, from the wait for its threads. -/
def closing (reg : RegistryId) (f : FilamentId) (i : Identity) (limit : Duration) (e : Exit) :
    Act ρ ε (Except CallError CallResult) := do
  let o ← Boundary.settle f i limit e.caught.toOutcome
  let v ← seeFilament f 0 (·.value .ordinary)
  detach reg
  Boundary.goOn e.caught.payload?
  return .ok ⟨o = .completed, o = .aborted, v⟩

lemma attempt_closing {i : Identity} {e : Exit} {o : Outcome} {v : UInt64} {w₁ w' : World ρ ε}
    (hsettle : Boundary.settle f i limit e.caught.toOutcome w = (.ok o, w₁))
    (hvalue : seeFilament f 0 (·.value .ordinary) w₁ = (.ok v, w₁))
    (hdetach : detach reg w₁ = (.ok (), w')) : (closing reg f i limit e).attempt w
      = (.ok (e.answer (.ok ⟨o = .completed, o = .aborted, v⟩)), w') :=
  attempt_goOn e _
    ((Flow.bind_ok hsettle).trans ((Flow.bind_ok hvalue).trans (Flow.bind_ok hdetach)))

lemma attempt_closing_untimed (hlimit : ¬ limit.Timed) (i : Identity) (e : Exit) (w : World ρ ε) :
    (closing reg f i limit e).attempt w = (.ok (.error untimed), w.panicked) :=
  Boundary.attempt_settle_untimed hlimit ..

/-- Between the boundary of a driver's routine and the wait for its threads, others have their turns
and the level is restored. -/
lemma exists_stays_between {exec : Routines ρ ε} {channel : ObserverId} (entry : Irql)
    {e : Exit} (hs₁ : Runs reg f limit s₀ s) (hcurrent : s.world.current = t)
    (hcaller : s.workers[0]? = some ⟨t, .caught e⟩)
    (hothers : ∀ s₁, Runs reg f limit s₀ s₁ → s₁.world.current = t →
      s₁.workers[0]? = some ⟨t, .caught e⟩ → ∃ s₂, Stays reg f limit exec.others s₁ s₂) :
    ∃ s₁, (do
        exec.turn
        Driver.restoreLevel channel entry
        exec.turn : Act ρ ε Unit) s.world = (.ok (), s₁.world) ∧ Stays reg f limit (do
        exec.turn
        Driver.restoreLevel channel entry
        exec.turn) s s₁ := by
  obtain ⟨s₁, hturn⟩ := hothers s hs₁ hcurrent hcaller
  obtain ⟨u, w₂, hrestore, hquiet⟩ := restoreLevel_quietly channel entry s₁.world
  have hrestored : Runs reg f limit s { s₁ with world := w₂ } :=
    hturn.runs.trans (Runs.quiet hquiet)
  obtain ⟨s₂, hwait⟩ := hothers { s₁ with world := w₂ } (hs₁.trans hrestored)
    (hquiet.current.trans (hturn.current.trans hcurrent)) (hturn.caller.trans hcaller)
  have hturns {s₁ s₂ : State ρ ε} (h : Stays reg f limit exec.others s₁ s₂) :
      exec.turn s₁.world = (.ok (), s₂.world) := by
    obtain ⟨ended, hended⟩ := h.attempt
    exact Flow.bind_ok hended
  have hdone : (do
      exec.turn
      Driver.restoreLevel channel entry
      exec.turn : Act ρ ε Unit) s.world = (.ok (), s₂.world) :=
    (Flow.bind_ok (hturns hturn)).trans ((Flow.bind_ok hrestore).trans (hturns hwait))
  exact ⟨s₂, hdone, ⟨_, Flow.attempt_ok hdone⟩, hrestored.trans hwait.runs,
    hwait.current.trans (hquiet.current.trans hturn.current), hwait.caller.trans hturn.caller⟩

/-- A thread calls a routine of a driver, whatever the routine does on the way and whatever its
threads do when it is over. -/
theorem callProtected_runs {exec : Routines ρ ε} {routine : ρ} {channel : ObserverId}
    {value : UInt64} (hw : w.current < w.threads.items.size)
    (hbody : ∀ s₁, Runs reg w.nextFilament limit (calling w channel value) s₁ →
      s₁.workers = [⟨w.current, .runs⟩] → s₁.world.current = w.current →
      ∃ s₂ result, Plays reg w.nextFilament limit 0 (exec routine) s₁ s₂ result)
    (hothers : ∀ s₁ e, Runs reg w.nextFilament limit (calling w channel value) s₁ →
      s₁.world.current = w.current → s₁.workers[0]? = some ⟨w.current, .caught e⟩ →
      ∃ s₂, Stays reg w.nextFilament limit exec.others s₁ s₂) :
    ∃ s' result, (Driver.callProtected exec reg limit routine channel value).attempt w
        = (.ok result, s'.world) ∧
      Runs reg w.nextFilament limit (calling w channel value) s' ∧
      ((∃ why, s'.workers[0]? = some ⟨w.current, .gone (.filament why)⟩ ∧
          result = .ok (.error (.filament why))) ∨
        (∃ e, s'.workers[0]? = some ⟨w.current, .stranded e⟩ ∧ result = .error untimed) ∨
        ∃ e late o v, s'.workers[0]? = some ⟨w.current, .done (.call e late o)⟩ ∧
          result = e.answer (.ok ⟨o = .completed, o = .aborted, v⟩)) := by
  obtain ⟨main, hs⟩ := Sound.opening (opening_calling hw channel value)
  let w₀ : World ρ ε := { w with roster := (w.roster.newFilament channel {} w.current).2 }
  have hmade : newFilament channel {} w = (.ok w.nextFilament, w₀) := rfl
  have hset : changeFilament w.nextFilament (·.setValue .ordinary value) w₀
      = (.ok (), (calling w channel value).world) := rfl
  rcases called_runs hs rfl hbody
      (fun w s₁ e hruns hcurrent hcaller => exists_stays_between
        ((w.threads.get? w.current).getD {}).level hruns hcurrent hcaller
        fun s₁ hruns hcurrent hcaller => hothers s₁ e hruns hcurrent hcaller) with
    ⟨why, s', hattach, hruns, hgone⟩ |
    ⟨e, w₁, w₂, w₃, s', hattach, hidentity, hguard, hdone, hruns, hwait⟩
  · refine ⟨s', _, Flow.attempt_ok ?_, hruns, .inl ⟨why, hgone, rfl⟩⟩
    rw [Driver.callProtected, Flow.bind_ok hmade, Flow.bind_ok hset, Flow.bind_ok hattach]
    rfl
  have hlevel : level w₁ = (.ok ((w₁.threads.get? w₁.current).getD {}).level, w₁) := rfl
  have hcalled : Driver.callProtected exec reg limit routine channel value w
      = closing reg w.nextFilament ⟨main, w.current⟩ limit e w₃ := by
    have hrest (k : Act ρ ε (Except CallError CallResult)) : (do
        exec.turn
        Driver.restoreLevel channel ((w₁.threads.get? w₁.current).getD {}).level
        exec.turn
        k : Act ρ ε (Except CallError CallResult)) w₂ = k w₃ := by
      have hjoined := Flow.bind_ok (k := fun _ => k) hdone
      rwa [bind_assoc, funext fun _ => bind_assoc _ _ _] at hjoined
    rw [Driver.callProtected, Flow.bind_ok hmade, Flow.bind_ok hset, Flow.bind_ok hattach]
    refine (Flow.bind_ok hidentity).trans ((Flow.bind_ok hlevel).trans ?_)
    exact (Flow.bind_ok hguard).trans (hrest _)
  rcases hwait with ⟨hlimit, hworld, hstranded⟩ | ⟨late, o, w₄, hsettle, hdetach, hover⟩
  · refine ⟨s', _, ?_, hruns, .inr (.inl ⟨e, hstranded, rfl⟩)⟩
    rw [hworld, Flow.attempt, hcalled, ← Flow.attempt]
    exact attempt_closing_untimed hlimit ..
  · obtain ⟨v, hvalue⟩ : ∃ v, seeFilament w.nextFilament 0 (·.value .ordinary) w₄ = (.ok v, w₄) :=
      ⟨_, rfl⟩
    refine ⟨s', _, ?_, hruns, .inr (.inr ⟨e, late, o, v, hover, rfl⟩)⟩
    rw [Flow.attempt, hcalled, ← Flow.attempt]
    exact attempt_closing hsettle hvalue hdetach

end Testbench.Crew
