import Testbench.Proofs.Remote.Parallel

/-!
# Drivers stand for their modules

A module whose routines are report scripts can be run as it is, in the program, or it can be
connected as a driver, loaded by a client and run through the device.  Both ways come to the same:
fixture by fixture the same result, and a recorder that is told the same, except that of what a call
reports it is told what the records of the driver deliver.  If there is room for all records, that is
what records keep of the events.
-/

namespace Testbench.Script

open World

/-! ### The two ways -/

/-- A fixture of a module to be run, and how. -/
structure Pick where
  /-- Its position in the module. -/
  fixture : Nat
  /-- How to run it. -/
  options : ExecutionOptions := {}
  /-- The position of the only test case to run, if not all of them are. -/
  selection : Option Nat := none

/-- The runs of fixtures of a module. -/
def jobs (reg : RegistryId) (m : Module Routine) (ps : List Pick) : List (Job Routine) :=
  ps.filterMap fun p => m.fixtures[p.fixture]?.map fun f => ⟨⟨f, p.options, p.selection⟩, reg⟩

/-- Runs fixtures one after the other, whatever the runs before came to. -/
def performAll (o : ObserverId) : List (Job Routine) → Play (List (Except RunError Unit))
  | [] => return []
  | j :: js => do
    let result ← j.perform Routine.run o
    return result :: (← performAll o js)

/-- Runs fixtures of a module in the program. -/
def runInProgram (o : ObserverId) (m : Module ReportScript) (ps : List Pick) :
    Play (List (Except RunError Unit)) :=
  performAll o (jobs ownRegistry (m.map (·.along .own)) ps)

/-- Connects a module as a driver, loads it and runs its fixtures through the device. -/
def runThroughDriver (o : ObserverId) (client : Client) (address : UInt64) (version : UInt32)
    (name : String) (m : Module ReportScript) (ps : List Pick) :
    Play (Except ConnectError (Except ClientError (List (Except RunError Unit)))) := do
  match ← Driver.connect address version fun s => return m.map (·.along (.sink s)) with
  | .error why => return .error why
  | .ok _ =>
    match ← client.load Routine.run address name with
    | .error why => return .ok (.error why)
    | .ok loaded => return .ok (.ok (← performAll o (jobs client.registry (loaded.map .remote) ps)))

/-- A scene in which a module can be run either way.  The observer is a recorder that answers by the
kinds of events alone and never breaks on a panic; the thread at passive level can be bound by the
program and by the client; no default filament is installed; a driver can be connected at the
address, and the clock can time how long its calls wait. -/
structure Ready (w : Scene) (o : ObserverId) (r : Recorder) (client : Client) (address : UInt64) :
    Prop where
  observer : w.observers.get? o = some (.recorder r)
  script : r.policy.script = []
  answer : r.policy.dispositions.uncaughtException = .proceed ∨
    r.policy.dispositions.uncaughtException = .abort
  passive : w.Passive
  own : w.roster.Free ownRegistry w.current
  unadopting : w.roster.default? ownRegistry = none
  up : w.device.tornDown = false
  vacant : w.device.Vacant address
  timed : w.device.joinLimit.Timed
  nonzero : address ≠ 0
  client : w.roster.Free client.registry w.current

/-! ### Side by side -/

variable {t : Setting}

/-- Jobs that come to the same in the two runs. -/
structure JobsAlike (t : Setting) (j j' : Job Routine) : Prop where
  registry : j.registry = ownRegistry
  registry' : j'.registry = t.client.registry
  plain : Plain j.run.options
  plain' : Plain j'.run.options
  run : j.run.Alike (Counterpart t.tests t.client t.address t.connection.routines t.sink) j'.run
  flags : j'.run.fixture.flags.anonymousThreads = false

lemma performAll_agrees (ht : t.Admits) {js js' : List (Job Routine)}
    (h : List.Forall₂ (JobsAlike t) js js') :
    Flow.Agrees (Parallel t none) (performAll t.observer js) (performAll t.observer js') := by
  induction h with
  | nil => exact Flow.agrees_pure _
  | cons hj _ ih =>
    have hperform := perform_agrees ht hj.registry hj.registry' hj.plain hj.run hj.plain'
      hj.flags
    refine hperform.bind fun result => ?_
    exact ih.bind fun results => Flow.agrees_pure _

/-- The same picks from modules that are alike. -/
lemma forall₂_jobs {m m' : Module Routine} {ps : List Pick}
    (h : List.Forall₂ (fun f f' => Fixture.Alike
        (Counterpart t.tests t.client t.address t.connection.routines t.sink) f f' ∧
      f'.flags.anonymousThreads = false) m.fixtures m'.fixtures)
    (hps : ∀ p ∈ ps, Plain p.options) :
    List.Forall₂ (JobsAlike t) (jobs ownRegistry m ps) (jobs t.client.registry m' ps) := by
  induction ps with
  | nil => exact .nil
  | cons p ps ih =>
    have hrest := ih fun p' hp' => hps p' (List.mem_cons_of_mem p hp')
    have hplain := hps p List.mem_cons_self
    have hrel := rel_getElem? h p.fixture
    rw [jobs, jobs, List.filterMap_cons, List.filterMap_cons]
    generalize m.fixtures[p.fixture]? = f, m'.fixtures[p.fixture]? = f' at hrel
    cases hrel with
    | none => exact hrest
    | some hf => exact .cons ⟨rfl, rfl, hplain, hplain, ⟨hf.1, rfl, rfl⟩, hf.2⟩ hrest

/-- If all records fit, what is delivered of a story is what records keep of it. -/
lemma Sides.echoes {f : Option FilamentId} {story : List Told} {r r' : Recorder} {w w' : Scene}
    (h : Sides t f story r r' w w') (hfits : ∀ script ∈ t.tests.routines,
      script.recordsSize t.dispositions ≤ t.client.eventBuffer) :
    t.recorder.Echoes r r' := by
  have hkept : story.map (Told.passing (Record.delivered t.client.eventBuffer))
      = story.map (Told.passing (·.map Record.kept)) := by
    refine List.map_congr_left fun s hs => ?_
    cases s with
    | call es =>
      obtain ⟨script, hscript, rfl⟩ := h.calls es hs
      exact congrArg Told.call (Record.delivered_eq_map (hfits script hscript))
    | _ => rfl
  have hechoes := t.recorder.books.hearing_echoes t.identity story
  rw [← hkept, ← h.books, ← h.books'] at hechoes
  exact ⟨hechoes.counts_eq, hechoes.history, hechoes.events⟩

/-! ### The theorem -/

/-- Running the fixtures of a connected module through its driver comes to the same as running them
in the program, whatever the routines report and however they end.  The recorder of the one run is
told the same story as that of the other, with what is delivered of the reports; if all records of a
call fit into the event buffer, its counts are equal and its history and its events are cut down to
what records keep. -/
theorem runThroughDriver_refines {m : Module ReportScript} {k : Keyed ReportScript}
    (hm : Keyed.ofModule? m = .ok k) {version : UInt32}
    (hversion : version = Sink.version₂ ∨ version = Sink.version₃) {w : Scene} {o : ObserverId}
    {r : Recorder} {client : Client} {address : UInt64} (hw : Ready w o r client address)
    (name : String) {ps : List Pick} (hps : ∀ p ∈ ps, Plain p.options) :
    ∃ results w₁ w₂ r₁ r₂ story, runInProgram o m ps w = (.ok results, w₁) ∧
      runThroughDriver o client address version name m ps w = (.ok (.ok (.ok results)), w₂) ∧
      w₁.observers.get? o = some (.recorder r₁) ∧ w₂.observers.get? o = some (.recorder r₂) ∧
      r₁.books = r.books.hearing (.ownMain w.current) story ∧
      r₂.books = r.books.hearing (.ownMain w.current)
        (story.map (Told.passing (Record.delivered client.eventBuffer))) ∧
      ((∀ script ∈ m.routines, script.recordsSize r.policy.dispositions ≤ client.eventBuffer) →
        r.Echoes r₁ r₂) := by
  let s := Driver.sinkFor w version
  obtain ⟨k', hk'⟩ := Keyed.exists_ofModule?_map hm (·.along (.sink s))
  obtain ⟨c, device, hconnect, hserves⟩ := Driver.connect_eq hw.nonzero hw.up hw.vacant
    (.inr hversion) (fun s => m.map (·.along (.sink s))) hk'
  let w₀ : Scene := { w with
    roster := { w.roster with registries := (w.roster.registries.add { kind := .driver }).2 }
    device }
  have hload := Client.load_eq (w := w₀) hserves (Keyed.numbers_of_ok hk') Routine.run
    client name
  let t : Setting := ⟨o, r, w.current, m, client, address, c,
    Driver.connectionFor w address version k', s⟩
  obtain ⟨g, hg, hbind⟩ := hw.client
  have hne := Pool.ne_add_of_some hg ({ kind := .driver } : Registry)
  have ht : t.Admits := ⟨hw.script, hw.answer, hne.symm⟩
  have hconnected : Connected w₀ address c (Driver.connectionFor w address version k') s := {
    serves := hserves
    registry := rfl
    offers := show ¬ version < Sink.version₂ by rcases hversion with rfl | rfl <;> decide
    free := ⟨_, Pool.get?_add_self _ _, rfl, by decide⟩
    timed := hw.timed
    address := hw.nonzero }
  have hstart : Parallel t none w w₀ := ⟨[], r, r, {
    own := ⟨rfl, hw.passive, hw.own, hw.observer, rfl⟩
    remote := ⟨rfl, hw.passive, ⟨g, Pool.get?_add_of_some hg _, hbind⟩, hw.observer, rfl⟩
    adopts := ⟨hw.unadopting, by rintro _ ⟨⟩⟩
    connected := hconnected
    books := rfl
    books' := rfl
    calls := fun _ h => by cases h }⟩
  have halike := alike_moduleOf client address (Keyed.numbers_of_ok hk') name
  obtain ⟨results, w₁, w₂, hprogram, hdriver, story, r₁, r₂, h⟩ :=
    performAll_agrees ht (forall₂_jobs halike hps) w w₀ hstart
  refine ⟨results, w₁, w₂, r₁, r₂, story, hprogram, ?_, h.own.observer, h.remote.observer, h.books,
    h.books', h.echoes⟩
  rw [runThroughDriver, Flow.bind_ok hconnect]
  exact (Flow.bind_ok hload).trans (Flow.bind_ok hdriver)

/-- A module of a fixture whose test case goes on after an assertion and then panics. -/
def leaflets : Module ReportScript :=
  ⟨"leaflets", [{ Fixture.blank "folding" with
    before := some ⟨0, [.log "opened"], by simp [Step.isReport]⟩
    cases := [⟨"tear", ⟨1,
      [.assertion .plain "whole" ⟨"leaflets", "fold", 7⟩, .panicking (some "torn")],
      by simp [Step.isReport]⟩⟩] }]⟩

/-- A scene with a recorder that proceeds. -/
def readingRoom : Scene :=
  { Scene.start with observers := ⟨#[.recorder (.answering .proceed)]⟩ }

theorem runThroughDriver_refines_leaflets :
    Ready readingRoom 0 (.answering .proceed) ⟨sharedRegistry, 65536⟩ 4096 ∧
    ∃ results w₁ w₂ r₁ r₂ story,
      runInProgram 0 leaflets [{ fixture := 0 }] readingRoom = (.ok results, w₁) ∧
      runThroughDriver 0 ⟨sharedRegistry, 65536⟩ 4096 Sink.version₂ "leaflets" leaflets
        [{ fixture := 0 }] readingRoom = (.ok (.ok (.ok results)), w₂) ∧
      w₁.observers.get? 0 = some (.recorder r₁) ∧ w₂.observers.get? 0 = some (.recorder r₂) ∧
      r₁.books = (Recorder.answering .proceed).books.hearing (.ownMain 0) story ∧
      r₂.books = (Recorder.answering .proceed).books.hearing (.ownMain 0)
        (story.map (Told.passing (Record.delivered 65536))) ∧
      (Recorder.answering .proceed).Echoes r₁ r₂ := by
  have hm : Keyed.ofModule? leaflets
      = .ok ⟨(leaflets.fixtures.map Keyed.groupOf).toArray⟩ := rfl
  have hw : Ready readingRoom 0 (.answering .proceed) ⟨sharedRegistry, 65536⟩ 4096 := {
    observer := rfl
    script := rfl
    answer := .inl rfl
    passive := ⟨_, rfl, rfl⟩
    own := ⟨_, rfl, rfl, by decide⟩
    unadopting := rfl
    up := rfl
    vacant := fun _ h => by cases h
    timed := by decide
    nonzero := by decide
    client := ⟨_, rfl, rfl, by decide⟩ }
  have hfits : ∀ script ∈ leaflets.routines,
      script.recordsSize (Recorder.answering .proceed).policy.dispositions ≤ 65536 := by
    decide +kernel
  have hps : ∀ p ∈ [({ fixture := 0 } : Pick)], Plain p.options := fun p hp => by
    obtain rfl := List.mem_singleton.mp hp
    exact ⟨rfl, by decide⟩
  obtain ⟨results, w₁, w₂, r₁, r₂, story, hprogram, hdriver, h₁, h₂, hbooks, hbooks', hechoes⟩ :=
    runThroughDriver_refines hm (.inl rfl) hw "leaflets" hps
  exact ⟨hw, results, w₁, w₂, r₁, r₂, story, hprogram, hdriver, h₁, h₂, hbooks, hbooks',
    hechoes hfits⟩

end Testbench.Script
