import Testbench.Proofs.Remote.Client
import Testbench.Proofs.Remote.Loaded
import Testbench.Proofs.Remote.Story

/-!
# Two runs side by side

One run calls the routines of a module itself, and the other calls them through the driver that the
module was connected as.  `Sides` relates the two worlds as long as the runs last: threads can be
bound on both sides, the connection stands, and the two recorders were told one story, the second
with what was delivered of the events.  Everything that a run asks of its host keeps it so.
-/

namespace Testbench.Script

open World

/-- Two runs of one module. -/
structure Setting where
  /-- The observer of the runs. -/
  observer : ObserverId
  /-- What it is when they start. -/
  recorder : Recorder
  /-- The thread that runs. -/
  thread : ThreadId
  /-- The module. -/
  tests : Module ReportScript
  /-- The client that loaded it. -/
  client : Client
  /-- The address at which it was connected. -/
  address : UInt64
  /-- The name of the connection. -/
  name : ConnectionId
  /-- The connection. -/
  connection : Connection Routine
  /-- The sink through which it reports. -/
  sink : Sink

namespace Setting

/-- How the observer answers. -/
def dispositions (t : Setting) : Dispositions := t.recorder.policy.dispositions

/-- How the thread reports. -/
def identity (t : Setting) : Identity := .ownMain t.thread

/-- The observer answers by the kinds of events alone and never breaks on a panic, and the thread is
bound in different registries by the client and by the driver. -/
structure Admits (t : Setting) : Prop where
  script : t.recorder.policy.script = []
  answer : t.dispositions.uncaughtException = .proceed ∨
    t.dispositions.uncaughtException = .abort
  apart : t.sink.registry ≠ t.client.registry

end Setting

/-- Calls are made without stacks, and the clock can time how long they wait. -/
structure Plain (options : ExecutionOptions) : Prop where
  unstacked : options.captureStacks = false
  timed : options.joinLimit.Timed

/-- One of the runs: its thread can be bound, and its observer is a recorder. -/
structure Side (t : Setting) (reg : RegistryId) (r : Recorder) (w : Scene) : Prop where
  current : w.current = t.thread
  passive : w.Passive
  free : w.roster.Free reg w.current
  observer : w.observers.get? t.observer = some (.recorder r)
  policy : r.policy = t.recorder.policy

/-- The default filament of the scenario's registry, if there is one, has no children. -/
def Adopts (w : Scene) (f : Option FilamentId) : Prop :=
  w.roster.default? ownRegistry = f ∧
    ∀ g, f = some g → ∃ y, w.roster.filaments.get? g = some y ∧ y.running = 0

/-- The runs side by side, after a story. -/
structure Sides (t : Setting) (f : Option FilamentId) (story : List Told) (r r' : Recorder)
    (w w' : Scene) : Prop where
  own : Side t ownRegistry r w
  remote : Side t t.client.registry r' w'
  adopts : Adopts w f
  connected : Connected w' t.address t.name t.connection t.sink
  books : r.books = t.recorder.books.hearing t.identity story
  books' : r'.books = t.recorder.books.hearing t.identity
    (story.map (Told.passing (Record.delivered t.client.eventBuffer)))
  calls : ∀ es, .call es ∈ story →
    ∃ script ∈ t.tests.routines, es = heard t.dispositions script.steps

/-- The runs side by side. -/
def Parallel (t : Setting) (f : Option FilamentId) (w w' : Scene) : Prop :=
  ∃ story r r', Sides t f story r r' w w'

section

variable {t : Setting} {f : Option FilamentId} {story : List Told} {r r' : Recorder}
  {w w' w₂ : Scene} {reg : RegistryId}

lemma Side.steady (h : Side t reg r w) (ht : t.Admits) :
    (Observer.recorder r).Steady t.dispositions := by
  refine ⟨?_, ?_⟩ <;> rw [h.policy]
  · rfl
  · exact ht.script

lemma Connected.seated {address : UInt64} {c : ConnectionId} {k : Connection Routine} {s : Sink}
    (h : Connected w address c k s) (hreg : s.registry ≠ reg) (y : Filament) :
    Connected (w.seated reg y).armed address c k s where
  serves := h.serves
  registry := h.registry
  offers := h.offers
  free := by
    obtain ⟨g, hg, hfree⟩ := h.free
    exact ⟨g, (Pool.get?_modify_of_ne hreg.symm _).trans hg, hfree⟩
  timed := h.timed
  address := h.address

/-! ### Callbacks -/

/-- A recorder that is told something. -/
lemma Side.observing (h : Side t reg r w) {r₂ : Recorder} (hr : r₂.policy = t.recorder.policy) :
    Side t reg r₂ (w.observing t.observer (.recorder r₂)) where
  current := h.current
  passive := h.passive
  free := h.free
  observer := observing_observer h.observer _
  policy := hr

lemma Side.told_policy (h : Side t reg r w) (ht : t.Admits) (s : Told) :
    (r.told t.identity s).policy = t.recorder.policy := by
  rw [Recorder.told_policy (by rw [h.policy, ht.script]), h.policy]

lemma Side.told_steady (h : Side t reg r w) (ht : t.Admits) (s : Told) :
    (Observer.recorder (r.told (.ownMain w.current) s)).Steady t.dispositions := by
  have hpolicy := h.told_policy ht s
  rw [Setting.identity, ← h.current] at hpolicy
  refine ⟨?_, ?_⟩ <;> rw [hpolicy]
  · rfl
  · exact ht.script

/-- Both recorders are told the same. -/
lemma Sides.told (h : Sides t f story r r' w w') (ht : t.Admits) {s : Told} (hs : s.isCallback) :
    Parallel t f (w.observing t.observer (.recorder (r.told t.identity s)))
      (w'.observing t.observer (.recorder (r'.told t.identity s))) := by
  refine ⟨story ++ [s], r.told t.identity s, r'.told t.identity s, ?_⟩
  exact {
    own := h.own.observing (h.own.told_policy ht s)
    remote := h.remote.observing (h.remote.told_policy ht s)
    adopts := h.adopts
    connected := ⟨h.connected.serves, h.connected.registry, h.connected.offers, h.connected.free,
      h.connected.timed, h.connected.address⟩
    books := by
      rw [Recorder.told_books, h.books, Recorder.hearing_concat]
    books' := by
      rw [Recorder.told_books, h.books', List.map_append, List.map_singleton,
        Told.passing_of_isCallback hs, Recorder.hearing_concat]
    calls := fun es hes => by
      rcases List.mem_append.mp hes with hes | hes
      · exact h.calls es hes
      · -- a callback is no call
        rw [← List.mem_singleton.mp hes] at hs
        cases hs }

/-- Recorders answer the same and are told the same. -/
lemma Sides.tell_eq {α : Type} (h : Sides t f story r r' w w') (ht : t.Admits) (fallback : α)
    {g : Observer → α × Observer} {answer : Recorder.Policy → α} {s : Told} (hs : s.isCallback)
    (hg : ∀ r : Recorder, g (.recorder r) = (answer r.policy, .recorder (r.told t.identity s))) :
    ∃ a w₂ w₂', tell t.observer fallback g w = (.ok a, w₂) ∧
      tell t.observer fallback g w' = (.ok a, w₂') ∧ Parallel t f w₂ w₂' := by
  have hown := World.tell_eq h.own.observer fallback g
  have hremote := World.tell_eq h.remote.observer fallback g
  rw [hg, h.own.policy] at hown
  rw [hg, h.remote.policy] at hremote
  exact ⟨_, _, _, hown, hremote, h.told ht hs⟩

/-! ### Calls -/

lemma hears_recorder (i : Identity) (r : Recorder) (es : List Event) :
    (Observer.recorder r).hears i es = .recorder (r.told i (.call es)) := by
  induction es generalizing r with
  | nil => rfl
  | cons e es ih => exact ih (r.report i e).2

/-- What a recorder hears of a call, with the panic that the boundary reports. -/
lemma exists_recorder_heard (i : Identity) (r : Recorder) (d : Dispositions) (steps : List Step) :
    ∃ r₂ : Recorder, ((Observer.recorder r).hears i (eventsOf d steps)).concludes i
        (endingOf d steps) = .recorder r₂ ∧
      r₂.books = r.books.told i (.call (heard d steps)) := by
  let r₁ := r.told i (.call (eventsOf d steps))
  rw [hears_recorder, heard, Recorder.told_append, ← Recorder.told_books]
  -- of a panic alone the recorder hears once more
  rcases endingOf d steps with - | s | text
  · exact ⟨r₁, rfl, Recorder.told_books r₁ i (.call [])⟩
  · exact ⟨r₁, rfl, Recorder.told_books r₁ i (.call [])⟩
  · exact ⟨_, rfl, Recorder.report_books ..⟩

section

variable {j : Job Routine} (hplain : Plain j.run.options)
include hplain

lemma filamentFlags_eq : j.filamentFlags.capturesStacks = false := by
  rw [Job.filamentFlags, hplain.unstacked]
  decide

/-- A report script that is called comes out as it ends, and its observer hears what it reports. -/
lemma Side.call_own (h : Side t ownRegistry r w) (ht : t.Admits) (hreg : j.registry = ownRegistry)
    (script : ReportScript) :
    ∃ w₂ r₂, j.callRoutine Routine.run t.observer (script.along .own) w
        = (.ok (.ok (script.outcome t.dispositions)), w₂) ∧
      Spares t.observer w w₂ ∧ w₂.observers.get? t.observer = some (.recorder r₂) ∧
      r₂.books = r.books.told t.identity (.call (heard t.dispositions script.steps)) := by
  have hfree : w.roster.Free j.registry w.current := by rw [hreg]; exact h.free
  have hbound := seated_bound (o := t.observer) (v := 0) h.passive hfree (filamentFlags_eq hplain)
  rw [hreg] at hbound
  obtain ⟨w₁, hrun, hwithin, hx⟩ := exec_within (p := .own) script trivial 255 hbound h.observer
    (h.steady ht)
  have hrun' : Routine.run (script.along .own)
      (w.seated ownRegistry (w.freshFilament t.observer j.filamentFlags 0)).armed
      = (resultOf (endingOf t.dispositions script.steps), w₁) := hrun
  rw [← hreg] at hrun' hwithin
  obtain ⟨w₂, hcall, hspares, hx₂⟩ := callRoutine_eq h.passive hfree
    (filamentFlags_eq hplain) hrun' hwithin (endingOf_ne_breakpoint _ _) hx
    ((h.steady ht).hears ..) ht.answer hplain.timed
  obtain ⟨r₂, hr₂, hbooks⟩ := exists_recorder_heard t.identity r t.dispositions script.steps
  rw [Setting.identity, ← h.current] at hr₂
  refine ⟨w₂, r₂, hcall, hspares, ?_, hbooks⟩
  rw [← hr₂]
  exact hx₂

/-- Its counterpart comes out the same way, and its observer hears what is delivered of the
reports. -/
lemma Side.call_remote (h : Side t t.client.registry r w) (ht : t.Admits)
    (hreg : j.registry = t.client.registry)
    (hconnected : Connected w t.address t.name t.connection t.sink) {script : ReportScript}
    {fixture routine : UInt16}
    (hroutine : t.connection.routines.routine? fixture routine
      = some (script.along (.sink t.sink))) :
    ∃ w₂ r₂, j.callRoutine Routine.run t.observer
        (.remote ⟨t.client, t.address, fixture, routine⟩) w
        = (.ok (.ok (script.outcome t.dispositions)), w₂) ∧
      Spares t.observer w w₂ ∧ w₂.observers.get? t.observer = some (.recorder r₂) ∧
      r₂.books = r.books.told t.identity (.call
        (Record.delivered t.client.eventBuffer (heard t.dispositions script.steps))) := by
  have hfree : w.roster.Free j.registry w.current := by rw [hreg]; exact h.free
  have hbound := seated_bound (o := t.observer) (v := 0) h.passive hfree (filamentFlags_eq hplain)
  rw [hreg] at hbound
  obtain ⟨w₁, hrun, hwithin, hx⟩ := run_remote_eq
    (r := ⟨t.client, t.address, fixture, routine⟩) hbound h.observer (h.steady ht) ht.answer
    (hconnected.seated ht.apart _) hroutine 254
  rw [hears_recorder] at hx
  have hrun' : Routine.run (.remote ⟨t.client, t.address, fixture, routine⟩)
      (w.seated t.client.registry (w.freshFilament t.observer j.filamentFlags 0)).armed
      = (resultOf (endingFor (script.outcome t.dispositions)), w₁) := hrun
  rw [← hreg] at hrun' hwithin
  have hne : endingFor (script.outcome t.dispositions) ≠ some (.signal .breakpoint) := by
    cases script.outcome t.dispositions <;> simp [endingFor]
  obtain ⟨w₂, hcall, hspares, hx₂⟩ := callRoutine_eq h.passive hfree (filamentFlags_eq hplain)
    hrun' hwithin hne hx (h.told_steady ht _) ht.answer hplain.timed
  rw [outcomeOfEnding_endingFor] at hcall
  rw [concludes_endingFor] at hx₂
  refine ⟨w₂, _, hcall, hspares, hx₂, ?_⟩
  rw [Recorder.told_books, Setting.identity, ← h.current]
  rfl

end

lemma Connected.spares {o : ObserverId} {address : UInt64} {c : ConnectionId}
    {k : Connection Routine} {s : Sink} (h : Connected w address c k s) (hw : Spares o w w₂) :
    Connected w₂ address c k s where
  serves := hw.device_eq ▸ h.serves
  registry := h.registry
  offers := h.offers
  free := hw.free h.free
  timed := h.timed
  address := h.address

lemma Adopts.spares {o : ObserverId} (h : Adopts w f) (hw : Spares o w w₂) : Adopts w₂ f := by
  refine ⟨?_, fun g hg => ?_⟩
  · rw [Roster.default?, hw.registries_eq]
    exact h.1
  · obtain ⟨y, hy, hrunning⟩ := h.2 g hg
    exact ⟨y, hw.filament g y hy, hrunning⟩

lemma Side.spares (h : Side t reg r w) (ht : t.Admits) (hw : Spares t.observer w w₂)
    {r₂ : Recorder} {s : Told} (hx : w₂.observers.get? t.observer = some (.recorder r₂))
    (hbooks : r₂.books = r.books.told t.identity s) : Side t reg r₂ w₂ where
  current := hw.current_eq.trans h.current
  passive := hw.passive h.passive
  free := hw.free h.free
  observer := hx
  policy := by
    have hpolicy := congrArg Recorder.policy hbooks
    rw [← Recorder.told_books] at hpolicy
    exact hpolicy.trans (h.told_policy ht s)

/-- Counterparts come out the same way, and the runs stay side by side. -/
lemma Sides.call (h : Sides t f story r r' w w') (ht : t.Admits) {j j' : Job Routine}
    (hreg : j.registry = ownRegistry) (hreg' : j'.registry = t.client.registry)
    (hplain : Plain j.run.options) (hplain' : Plain j'.run.options) {a a' : Routine}
    (ha : Counterpart t.tests t.client t.address t.connection.routines t.sink a a') :
    ∃ out w₂ w₂', j.callRoutine Routine.run t.observer a w = (.ok (.ok out), w₂) ∧
      j'.callRoutine Routine.run t.observer a' w' = (.ok (.ok out), w₂') ∧
      Parallel t f w₂ w₂' := by
  obtain ⟨script, hscript, rfl, fixture, routine, rfl, hroutine⟩ := ha
  obtain ⟨w₂, r₂, hcall, hspares, hx, hbooks⟩ :=
    h.own.call_own hplain ht hreg script
  obtain ⟨w₂', r₂', hcall', hspares', hx', hbooks'⟩ :=
    h.remote.call_remote hplain' ht hreg' h.connected hroutine
  refine ⟨_, w₂, w₂', hcall, hcall',
    story ++ [.call (heard t.dispositions script.steps)], r₂, r₂', ?_⟩
  exact {
    own := h.own.spares ht hspares hx hbooks
    remote := h.remote.spares ht hspares' hx' hbooks'
    adopts := h.adopts.spares hspares
    connected := h.connected.spares hspares'
    books := by
      rw [hbooks, h.books, Recorder.hearing_concat]
    books' := by
      rw [hbooks', h.books', List.map_append, List.map_singleton, Told.passing,
        Recorder.hearing_concat]
    calls := fun es hes => by
      rcases List.mem_append.mp hes with hes | hes
      · exact h.calls es hes
      · cases List.mem_singleton.mp hes
        exact ⟨script, hscript, rfl⟩ }

/-! ### Hosts -/

/-- What a recorder answers to the start of a fixture. -/
def answerToFixture (fixture : String) (p : Recorder.Policy) : Except ObserverError Unit :=
  if fixture ∈ p.refusedFixtures then
    .error (.refused "before_fixture_start" (.fixture fixture))
  else .ok ()

/-- What a recorder answers to the start of a test case. -/
def answerToCase (case : String) (p : Recorder.Policy) : Except ObserverError Unit :=
  if case ∈ p.refusedCases then
    .error (.refused "before_test_case_start" (.other "test refused"))
  else .ok ()

lemma fixtureStarts_recorder (r : Recorder) (i : Identity) (fixture : String) :
    (Observer.recorder r).fixtureStarts i fixture
      = (answerToFixture fixture r.policy, .recorder (r.told i (.fixtureStarts fixture))) := by
  have hanswer : (r.fixtureStarts i fixture).1 = answerToFixture fixture r.policy :=
    apply_ite Prod.fst _ _ _
  rw [← hanswer]
  rfl

lemma caseStarts_recorder (r : Recorder) (i : Identity) (fixture case : String) :
    (Observer.recorder r).caseStarts i fixture case
      = (answerToCase case r.policy, .recorder (r.told i (.caseStarts case))) := by
  have hanswer : (r.caseStarts i case).1 = answerToCase case r.policy := apply_ite Prod.fst _ _ _
  rw [← hanswer]
  rfl

/-- The running thread tells an observer something. -/
def telling {α : Type} (o : ObserverId) (fallback : α) (g : Identity → Observer → α × Observer) :
    Play α := do
  let t ← self
  tell o fallback (g (.ownMain t))

lemma telling_agrees {α : Type} (ht : t.Admits) (fallback : α)
    (g : Identity → Observer → α × Observer) (answer : Recorder.Policy → α) (s : Told)
    (hs : s.isCallback) (hg : ∀ r : Recorder,
      g t.identity (.recorder r) = (answer r.policy, .recorder (r.told t.identity s))) :
    Flow.Agrees (Parallel t f) (telling t.observer fallback g)
      (telling t.observer fallback g) := by
  rintro w w' ⟨story, r, r', h⟩
  -- the same thread runs on both sides
  have hself : telling t.observer fallback g w = tell t.observer fallback (g t.identity) w := by
    rw [Setting.identity, ← h.own.current]
    rfl
  have hself' : telling t.observer fallback g w' = tell t.observer fallback (g t.identity) w' := by
    rw [Setting.identity, ← h.remote.current]
    rfl
  rw [hself, hself']
  exact h.tell_eq ht fallback hs hg

section

variable {j j' : Job Routine}

lemma host_fixtureStarts (o : ObserverId) (F : Fixture Routine) :
    (j.host Routine.run o).fixtureStarts F
      = telling o (.ok ()) fun i x => x.fixtureStarts i F.name := rfl

lemma host_fixtureFinished (o : ObserverId) (F : Fixture Routine) (completed : Bool) :
    (j.host Routine.run o).fixtureFinished F completed
      = telling o () fun i x => ((), x.fixtureFinished i F.name completed) := rfl

lemma host_caseStarts (o : ObserverId) (F : Fixture Routine) (c : TestCase Routine) :
    (j.host Routine.run o).caseStarts F c
      = telling o (.ok ()) fun i x => x.caseStarts i F.name c.name := rfl

lemma host_caseFinished (o : ObserverId) (F : Fixture Routine) (c : TestCase Routine)
    (completed : Bool) :
    (j.host Routine.run o).caseFinished F c completed
      = telling o () fun i x => ((), x.caseFinished i F.name c.name completed) := rfl

/-- The hosts of the two runs answer alike, whether threads are adopted or not. -/
lemma host_agrees (ht : t.Admits) (hreg : j.registry = ownRegistry)
    (hreg' : j'.registry = t.client.registry) (hplain : Plain j.run.options)
    (hplain' : Plain j'.run.options) (f : Option FilamentId) :
    Host.Agrees (Counterpart t.tests t.client t.address t.connection.routines t.sink)
      (Parallel t f) (j.host Routine.run t.observer) (j'.host Routine.run t.observer) where
  validate := by
    rintro w w' ⟨story, r, r', h⟩
    have hpolicy : (Observer.recorder r').validate = (Observer.recorder r).validate := by
      rw [Observer.validate, Observer.validate, Observer.version, Observer.version,
        h.own.policy, h.remote.policy]
    have hown := World.tell_eq h.own.observer (.ok ()) fun x => (x.validate, x)
    have hremote := World.tell_eq h.remote.observer (.ok ()) fun x => (x.validate, x)
    rw [observing_self h.own.observer] at hown
    rw [observing_self h.remote.observer, hpolicy] at hremote
    exact ⟨_, w, w', hown, hremote, story, r, r', h⟩
  fixtureStarts {F F'} hF := by
    rw [host_fixtureStarts, host_fixtureStarts, ← hF.name_eq]
    exact telling_agrees ht _ _ (answerToFixture F.name) (.fixtureStarts F.name) rfl
      fun r => fixtureStarts_recorder r _ _
  fixtureFinished {F F'} hF completed := by
    rw [host_fixtureFinished, host_fixtureFinished, ← hF.name_eq]
    exact telling_agrees ht _ _ (fun _ => ()) (.fixtureFinished F.name completed) rfl fun _ => rfl
  caseStarts {F F' c c'} hF hc := by
    rw [host_caseStarts, host_caseStarts, ← hF.name_eq, ← hc.name_eq]
    exact telling_agrees ht _ _ (answerToCase c.name) (.caseStarts c.name) rfl
      fun r => caseStarts_recorder r _ _ _
  caseFinished {F F' c c'} hF hc completed := by
    rw [host_caseFinished, host_caseFinished, ← hF.name_eq, ← hc.name_eq]
    exact telling_agrees ht _ _ (fun _ => ()) (.caseFinished c.name completed) rfl fun _ => rfl
  call hr := by
    rintro w w' ⟨story, r, r', h⟩
    obtain ⟨out, w₂, w₂', hcall, hcall', hparallel⟩ := h.call ht hreg hreg' hplain hplain' hr
    exact ⟨_, w₂, w₂', hcall, hcall', hparallel⟩

/-- What happens to the roster alone. -/
lemma Side.onRoster (h : Side t reg r w) {roster : Roster} (hfree : roster.Free reg w.current) :
    Side t reg r { w with roster } where
  current := h.current
  passive := h.passive
  free := hfree
  observer := h.observer
  policy := h.policy

lemma Sides.onRoster {g : Option FilamentId} (h : Sides t f story r r' w w') {roster : Roster}
    (hfree : roster.Free ownRegistry w.current) (hadopts : Adopts { w with roster } g) :
    Parallel t g { w with roster } w' :=
  ⟨story, r, r', h.own.onRoster hfree, h.remote, hadopts, h.connected, h.books, h.books', h.calls⟩

/-- While a fixture is run whose threads may be anonymous there is a default filament, which adopts
nobody. -/
lemma host_adopts (hreg : j.registry = ownRegistry) (hplain : Plain j.run.options)
    (F : Fixture Routine) :
    Host.Adopts (Parallel t none) (fun d => Parallel t (some d)) (j.host Routine.run t.observer)
      F where
  installs := by
    rintro w w' ⟨story, r, r', h⟩
    obtain ⟨d, roster, hinstall, hdefault, hfree, y, hy, hrunning⟩ := Roster.installDefault_eq
      h.own.free h.adopts.1 t.observer j.filamentFlags w.current
    refine ⟨d, { w with roster }, ?_, h.onRoster hfree ⟨hdefault, ?_⟩⟩
    · have hself : self w = (.ok w.current, w) := rfl
      have hhost : (j.host Routine.run t.observer).installs F = j.install t.observer := rfl
      rw [hhost, Job.install, hreg, Flow.bind_ok hself, World.onRoster, Flow.step_apply, hinstall]
    · rintro d' ⟨⟩
      exact ⟨y, hy, hrunning⟩
  awaits := by
    rintro d w w' ⟨story, r, r', h⟩
    -- no thread was adopted, so that there is nobody to wait for
    obtain ⟨y, hy, hrunning⟩ := h.adopts.2 d rfl
    have hjoin := joinChildren_of_running_zero hy hrunning hplain.timed
    exact ⟨w, Flow.bind_ok hjoin, story, r, r', h⟩
  revokes := by
    rintro d w w' ⟨story, r, r', h⟩
    obtain ⟨hnone, hfree⟩ := Roster.revokeDefault_spec h.own.free h.adopts.1
    refine ⟨{ w with roster := w.roster.revokeDefault ownRegistry d }, ?_,
      h.onRoster hfree ⟨hnone, by rintro _ ⟨⟩⟩⟩
    have hhost : (j.host Routine.run t.observer).revokes F d = Job.revoke j.registry d := rfl
    rw [hhost, Job.revoke, hreg]
    rfl

/-- Runs of counterparts, one calling the routines itself and the other through the driver, come to
the same. -/
lemma perform_agrees (ht : t.Admits) (hreg : j.registry = ownRegistry)
    (hreg' : j'.registry = t.client.registry) (hplain : Plain j.run.options)
    (hrun : j.run.Alike (Counterpart t.tests t.client t.address t.connection.routines t.sink) j'.run)
    (hplain' : Plain j'.run.options)
    (hflags : j'.run.fixture.flags.anonymousThreads = false) :
    Flow.Agrees (Parallel t none) (j.perform Routine.run t.observer)
      (j'.perform Routine.run t.observer) :=
  FixtureRun.run_agrees (host_agrees ht hreg hreg' hplain hplain' none)
    (fun d => host_agrees ht hreg hreg' hplain hplain' (some d)) (host_adopts hreg hplain _) hrun
    hflags

end

end

end Testbench.Script
