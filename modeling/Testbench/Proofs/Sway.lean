import Testbench.Proofs.Remote.Connect
import Testbench.Proofs.Sway.Remote
import Testbench.Run.InWorld

/-!
# Events do not sway a run

How much room there is for the events of a call has no say in what becomes of the call, nor of a run
whose fixture was loaded by a client: what does not fit is dropped, and the routine that reported it
fails or stops the run all the same.  Drivers may have any routines that are lawful, and observers
may answer as they like, as long as the events that they were told of before do not sway them.
-/

namespace Testbench

open Testbench.Flow World

variable {ρ ε : Type} {o : ObserverId} {w : World ρ ε}

/-! ### Jobs -/

namespace World

/-- Calls of routines that match. -/
lemma tracks_boundaryCall {m n : Act ρ ε Unit} (hmn : Tracks Alike m n) (reg : RegistryId)
    (f : FilamentId) (limit : Duration) :
    Tracks Alike (Boundary.call reg f limit m) (Boundary.call reg f limit n) := by
  have hclosed : Closed (ρ := ρ) (ε := ε) Blind := Blind.closed
  refine Tracks.bind (hclosed.attach reg f).tracks fun bound => ?_
  cases bound with
  | error why => exact tracks_pure _
  | ok u =>
    refine Tracks.bind (hclosed.identityIn f).tracks fun i => ?_
    have hguard : Tracks Alike (Boundary.guard f i m) (Boundary.guard f i n) :=
      Tracks.bind (hclosed.enter f).tracks fun before => Tracks.bind hmn.attempt fun result =>
        (hclosed.leave f i before result).tracks
    refine Tracks.bind hguard fun caught => ?_
    have hrest (o : Outcome) (payload : Option Payload) : Blind (do
        let o ← Boundary.settle f i limit o
        detach reg
        Boundary.goOn payload
        return .ok o : Act ρ ε (Except FilamentError Outcome)) :=
      hclosed.bind (hclosed.settle f i limit o) fun _ => hclosed.bind (hclosed.detach reg) fun _ =>
        hclosed.bind (hclosed.goOn payload) fun _ => hclosed.pure _
    exact (hrest _ _).tracks

end World

namespace Job

variable {exec : ρ → Act ρ ε Unit} {S : ρ → ρ → Prop}

/-- Two jobs whose fixtures have routines that match. -/
lemma host_related (hexec : ∀ r r', S r r' → Tracks Alike (exec r) (exec r')) (j j' : Job ρ)
    (hregistry : j.registry = j'.registry) (hoptions : j.run.options = j'.run.options)
    (o : ObserverId) : (j.host exec o).Related S (Tracks Alike) (j'.host exec o) where
  validate := (blind_tell (fun _ _ h => ⟨h.validate_eq, h⟩) o).tracks
  fixtureStarts {f f'} hf := by
    refine Tracks.bind Blind.closed.self.tracks fun t => ?_
    rw [hf.name_eq]
    exact (blind_tell (fun _ _ h => h.fixtureStarts _ _) o).tracks
  fixtureFinished {f f'} hf completed := by
    refine Tracks.bind Blind.closed.self.tracks fun t => ?_
    rw [hf.name_eq]
    exact (blind_tell (fun _ _ h => ⟨rfl, h.fixtureFinished _ _ _⟩) o).tracks
  caseStarts {f f' c c'} hf hc := by
    refine Tracks.bind Blind.closed.self.tracks fun t => ?_
    rw [hf.name_eq, hc.name_eq]
    exact (blind_tell (fun _ _ h => h.caseStarts _ _ _) o).tracks
  caseFinished {f f' c c'} hf hc completed := by
    refine Tracks.bind Blind.closed.self.tracks fun t => ?_
    rw [hf.name_eq, hc.name_eq]
    exact (blind_tell (fun _ _ h => ⟨rfl, h.caseFinished _ _ _ _⟩) o).tracks
  call {r r'} hr := by
    refine Tracks.bind (m := newFilament o j.filamentFlags) ?_ fun f => ?_
    · rw [Job.filamentFlags, hoptions]
      exact (Blind.closed.newFilament o _).tracks
    · rw [hregistry, hoptions]
      exact tracks_boundaryCall (hexec r r' hr) _ f _

/-- What somebody who watches a job has noted in the end. -/
def notes (exec : ρ → Act ρ ε Unit) (o : ObserverId) (j : Job ρ) (w : World ρ ε) : List (Note ρ) :=
  ((j.run.run (j.host exec o).watched) (w, [])).2.2

/-- Two jobs come to the same from a world: they have the same result, the worlds that they leave
differ in events at most, and there is the same to note about them. -/
structure SameRun (exec : ρ → Act ρ ε Unit) (S : ρ → ρ → Prop) (o : ObserverId) (w : World ρ ε)
    (j j' : Job ρ) : Prop where
  result_eq : (j.perform exec o w).1 = (j'.perform exec o w).1
  alike : Alike (j.perform exec o w).2 (j'.perform exec o w).2
  notes : List.Forall₂ (Note.Alike S) (j.notes exec o w) (j'.notes exec o w)

lemma sameRun (hexec : ∀ r r', S r r' → Tracks Alike (exec r) (exec r')) (hw : Alike w w)
    {f f' : Fixture ρ} (hf : f.Alike S f') (hflags : f.flags.anonymousThreads = false)
    (hflags' : f'.flags.anonymousThreads = false) (options : ExecutionOptions)
    (selection : Option Nat) (reg : RegistryId) (o : ObserverId) :
    SameRun exec S o w ⟨⟨f, options, selection⟩, reg⟩ ⟨⟨f', options, selection⟩, reg⟩ := by
  have hhost := host_related hexec ⟨⟨f, options, selection⟩, reg⟩ ⟨⟨f', options, selection⟩, reg⟩
    rfl rfl o
  have hr : FixtureRun.Alike S ⟨f, options, selection⟩ ⟨f', options, selection⟩ := ⟨hf, rfl, rfl⟩
  obtain ⟨hresult, halike⟩ :=
    FixtureRun.run_related tracks_congruent hhost hr hflags hflags' w w hw
  obtain ⟨-, -, hnotes⟩ := FixtureRun.run_related tracks_congruent hhost.watched hr hflags hflags'
    (w, []) (w, []) ⟨hw, .nil⟩
  exact ⟨endsAlike_eq_iff.mp hresult, halike, hnotes⟩

end Job

/-! ### Loaded modules -/

namespace Client

variable {exec : Routines ρ ε} {c : Client} {address : UInt64} {name : String}
  {m : Module RemoteRoutine}

/-- What is loaded is described by a catalog, which is the same for every client. -/
lemma load_ok_iff : (c.load exec address name w).1 = .ok (.ok m) ↔
    ∃ info, (query exec address w).1 = .ok (.ok info) ∧ m = c.moduleOf address name info := by
  rcases h : query exec address w with ⟨stop | why | info, w'⟩
  · rw [load, bind_error h]
    simp
  · have hload : c.load exec address name w = (.ok (.error why), w') := by
      rw [load, bind_ok h]
      rfl
    simp [hload]
  · have hload : c.load exec address name w = (.ok (.ok (c.moduleOf address name info)), w') := by
      rw [load, bind_ok h]
      rfl
    simp [hload, eq_comm]

lemma fixtureOf_withBuffer (c : Client) (size : Nat) (address : UInt64) (info : Image.FixtureInfo) :
    (c.withBuffer size).fixtureOf address info
      = (c.fixtureOf address info).map (·.withBuffer size) := by
  simp only [fixtureOf, Fixture.map, Option.map_map, List.map_map]
  rfl

/-- A client with another buffer makes the same of a catalog, but for the buffer. -/
lemma moduleOf_withBuffer (c : Client) (size : Nat) (address : UInt64) (name : String)
    (info : Image.ModuleInfo) :
    (c.withBuffer size).moduleOf address name info
      = (c.moduleOf address name info).map (·.withBuffer size) := by
  simp only [moduleOf, Module.ofFixtures, Module.map, List.map_map]
  congr 1
  refine List.map_congr_left fun f _ => ?_
  simp only [Function.comp_apply, fixtureOf_withBuffer]
  rfl

/-- Loaded fixtures have no anonymous threads. -/
lemma flags_of_load (h : (c.load exec address name w).1 = .ok (.ok m)) {f : Fixture RemoteRoutine}
    (hf : f ∈ m.fixtures) : f.flags.anonymousThreads = false := by
  obtain ⟨info, -, rfl⟩ := load_ok_iff.mp h
  simp only [moduleOf, Module.ofFixtures, List.map_map] at hf
  obtain ⟨g, -, rfl⟩ := List.mem_map.mp hf
  exact show ({} : FixtureFlags).anonymousThreads = false by decide

end Client

/-- Fixtures are alike in any two ways in which their routines are. -/
lemma Fixture.alike_map {α υ : Type} {S : υ → υ → Prop} {g g' : α → υ} (hg : ∀ r, S (g r) (g' r))
    (f : Fixture α) : (f.map g).Alike S (f.map g') := by
  have hoptional (r : Option α) : Option.Rel S (r.map g) (r.map g') := by
    cases r with
    | none => exact .none
    | some r => exact .some (hg r)
  refine ⟨rfl, hoptional _, hoptional _, hoptional _, hoptional _, ?_⟩
  rw [Fixture.map, Fixture.map, List.forall₂_map_left_iff, List.forall₂_map_right_iff,
    List.forall₂_same]
  exact fun c _ => ⟨rfl, hg c.routine⟩

/-- Remote routines that are the same, but for the buffer of the client in the second. -/
def Rebuffered (remote : RemoteRoutine → ρ) (size : Nat) (r r' : ρ) : Prop :=
  ∃ q, r = remote q ∧ r' = remote (q.withBuffer size)

/-- Room for events steers nothing, whatever the routines of drivers do by contract, and whatever
observers there are that events do not sway.  A request to call a routine ends in the same way with
all buffers that have room for a response, and the responses have the same outcome and the same
value.  A client loads the same module whatever its buffer is, and the fixtures run alike: with the
same result, the same callbacks and the same calls, while the worlds that they leave differ at most
in what observers know of events. -/
theorem unswayed_by_room {inner : Routines ρ ε} {exec : ρ → Act ρ ε Unit}
    {remote : RemoteRoutine → ρ} (hinner : ∀ routine, Lawful (inner routine))
    (hothers : Lawful inner.others) (hremote : ∀ q, exec (remote q) = q.run inner)
    (hw : ∀ o x, w.observers.get? o = some x → x.Unswayed) :
    (∀ input output output' : List UInt8, CallResponse.size ≤ output.length →
      CallResponse.size ≤ output'.length →
      EndsAlike (EndsAlike Completion.SameOutcome)
        (Driver.control inner ControlCode.call.code input output w).1
        (Driver.control inner ControlCode.call.code input output' w).1 ∧
      Alike (Driver.control inner ControlCode.call.code input output w).2
        (Driver.control inner ControlCode.call.code input output' w).2) ∧
    ∀ (c : Client) (size : Nat) (address : UInt64) (name : String) (w₀ : World ρ ε)
      (m : Module RemoteRoutine), (c.load exec address name w₀).1 = .ok (.ok m) →
      ((c.withBuffer size).load exec address name w₀).1
        = .ok (.ok (m.map (·.withBuffer size))) ∧
      ∀ f ∈ m.fixtures, ∀ (options : ExecutionOptions) (selection : Option Nat) (reg : RegistryId)
        (o : ObserverId),
        Job.SameRun exec (Rebuffered remote size) o w ⟨⟨f.map remote, options, selection⟩, reg⟩
          ⟨⟨(f.map (·.withBuffer size)).map remote, options, selection⟩, reg⟩ := by
  have hblind (routine : ρ) : Blind (inner routine) := (hinner routine).blind
  have halike : Alike w w := .refl hw
  refine ⟨fun input output output' h h' => ?_, fun c size address name w₀ m hload => ⟨?_, ?_⟩⟩
  · have hcontrol (output : List UInt8) : Driver.control inner ControlCode.call.code input output
        = Driver.callRoutine inner input output := by
      rw [Driver.control, ControlCode.ofCode?_code]
    rw [hcontrol, hcontrol]
    exact matches_callRoutine hblind hothers.blind input h h' w w halike
  · obtain ⟨info, hquery, rfl⟩ := Client.load_ok_iff.mp hload
    exact Client.load_ok_iff.mpr ⟨info, hquery, (c.moduleOf_withBuffer ..).symm⟩
  · intro f hf options selection reg o
    have hflags := Client.flags_of_load hload hf
    have hexec (r r' : ρ) (hr : Rebuffered remote size r r') : Tracks Alike (exec r) (exec r') := by
      obtain ⟨q, rfl, rfl⟩ := hr
      rw [hremote, hremote]
      exact RemoteRoutine.tracks_run hblind hothers.blind q size
    have hmap : (f.map (·.withBuffer size)).map remote
        = f.map fun q => remote (q.withBuffer size) := by
      simp only [Fixture.map, Option.map_map, List.map_map]
      rfl
    rw [hmap]
    exact Job.sameRun hexec halike (f.alike_map fun q => ⟨q, rfl, rfl⟩) hflags hflags options
      selection reg o

/-- A routine of a driver: an assertion does not hold, a child reports something, and then there is a
panic. -/
def relaying : Act (Option RemoteRoutine) Unit Unit := do
  let _ ← Driver.sink.assertion ⟨"relay", "switching", 3⟩ "powered"
  match ← Driver.sink.startThread with
  | .error _ => return ()
  | .ok child =>
    let _ ← Child.finish child (Driver.sink.log "switched")
    panicking (some "stuck")

/-- What routines do, with room for remote routines to nest so deep. -/
def relayAt : Nat → Option RemoteRoutine → Act (Option RemoteRoutine) Unit Unit
  | _, none => relaying
  | 0, some _ => Flow.exhaust
  | depth + 1, some q => q.run (relayAt depth)

lemma lawful_relaying : Lawful relaying := by
  have hclosed : Closed (ρ := Option RemoteRoutine) (ε := Unit) Lawful := Lawful.closed
  have hsink (text : String) :=
    hclosed.sink Driver.sink ⟨"relay", "switching", 3⟩ text 0 0 .ordinary 0
  obtain ⟨hassertion, -, -, -, -, -, -, -, hstart⟩ := hsink "powered"
  obtain ⟨-, -, -, hlog, -⟩ := hsink "switched"
  refine hassertion.bind fun _ => hstart.bind fun started => ?_
  cases started with
  | error why => exact hclosed.pure ()
  | ok child => exact (hclosed.finish child hlog).bind fun _ => hclosed.panicking _

lemma lawful_relayAt (depth : Nat) (r : Option RemoteRoutine) : Lawful (relayAt depth r) := by
  induction depth generalizing r with
  | zero =>
    cases r with
    | none => exact lawful_relaying
    | some q => exact .apart fun _ _ => rfl
  | succ depth ih =>
    cases r with
    | none => exact lawful_relaying
    | some q => exact .remote ih (.apart fun _ _ => rfl) q

/-- The module of this routine. -/
def relay : Module (Option RemoteRoutine) :=
  ⟨"relay", [{ Fixture.blank "Relay" with cases := [⟨"Switch", none⟩] }]⟩

/-- The driver that has this module. -/
def relayConnection : Connection (Option RemoteRoutine) where
  address := 8
  routines := ⟨(relay.fixtures.map Keyed.groupOf).toArray⟩
  registry := 0
  sinkVersion := Sink.version₃
  joinLimit := .ofSeconds 60

/-- A world with this driver and with a recorder that goes on. -/
def relayWorld : World (Option RemoteRoutine) Unit where
  roster := { registries := ⟨#[{ kind := .driver }, { kind := .program }]⟩ }
  observers := ⟨#[.recorder (.answering .proceed)]⟩
  device := { connections := ⟨#[relayConnection]⟩, entries := [(8, 0)] }
  store := ()

/-- There is room for the events of the routine, or there is none. -/
theorem unswayed_by_room_relay :
    (∀ r, Lawful (relayAt 1 r)) ∧ (Observer.recorder (.answering .proceed)).Unswayed ∧
    EndsAlike (EndsAlike Completion.SameOutcome)
      (Driver.control (relayAt 1) ControlCode.call.code (CallRequest.mk 8 0 0 0 0 5).bytes
        (blankBuffer 24) relayWorld).1
      (Driver.control (relayAt 1) ControlCode.call.code (CallRequest.mk 8 0 0 0 0 5).bytes
        (blankBuffer 124) relayWorld).1 ∧
    ∃ m, (Client.load (relayAt 2) ⟨1, 65536⟩ 8 "relay" relayWorld).1 = .ok (.ok m) ∧
      (Client.load (relayAt 2) ⟨1, 0⟩ 8 "relay" relayWorld).1
        = .ok (.ok (m.map (·.withBuffer 0))) ∧
      m.fixtures.length = 1 ∧
      ∀ f ∈ m.fixtures, Job.SameRun (relayAt 2) (Rebuffered some 0) 0 relayWorld
        ⟨⟨f.map some, {}, none⟩, 1⟩ ⟨⟨(f.map (·.withBuffer 0)).map some, {}, none⟩, 1⟩ := by
  have hrecorder : (Observer.recorder (.answering .proceed)).Unswayed :=
    Observer.similar_self_iff.mp (.recorder (.refl fun d hd => nomatch hd))
  have hw (o : ObserverId) (x : Observer) (hx : relayWorld.observers.get? o = some x) :
      x.Unswayed := by
    match o with
    | 0 =>
      cases hx
      exact hrecorder
    | o + 1 => cases hx
  have hnumbers : Keyed.ofModule? relay = .ok relayConnection.routines := rfl
  have hserves : relayWorld.device.Serves 8 0 relayConnection := ⟨rfl, rfl, rfl, by decide, rfl⟩
  have hload (size : Nat) := Client.load_eq hserves (Keyed.numbers_of_ok hnumbers) (relayAt 2)
    ⟨1, size⟩ "relay"
  have hremote (q : RemoteRoutine) : relayAt 2 (some q) = q.run (relayAt 1) := rfl
  obtain ⟨hcontrol, hruns⟩ := unswayed_by_room (lawful_relayAt 1) (Lawful.closed.pure ())
    hremote hw
  obtain ⟨hload', hsame⟩ := hruns ⟨1, 65536⟩ 0 8 "relay" relayWorld _
    (congrArg Prod.fst (hload 65536))
  exact ⟨lawful_relayAt 1, hrecorder, (hcontrol _ _ _ (by decide) (by decide)).1, _,
    congrArg Prod.fst (hload 65536), hload', rfl, fun f hf => hsame f hf {} none 1 0⟩

end Testbench
