import Testbench.Run.Fixture

/-!
# The law of a run

What a run of a fixture asks of its host, in order, and what it comes to, as soon as it is known how
every call of a routine comes out.  Nothing here is a program: a case stops the fixture or it does
not, the cases that run are those up to the first that stops, and the rest follows.

* `Answers` says how each call of a run would come out, whether it is made or not.
* `FixtureRun.trace` is everything that is asked of the host, with its answers.
* `FixtureRun.verdict` is what the run comes to.
-/

namespace Testbench

variable {σ ρ : Type}

/-! ### Moves -/

/-- Something that a run asks of its host and that is granted, with the answer to it. -/
inductive Move (ρ : Type)
  /-- The observer fits the contract. -/
  | validates
  /-- The observer is told that a fixture starts. -/
  | fixtureStarts (f : Fixture ρ)
  /-- A default filament is installed. -/
  | installs (f : Fixture ρ) (d : FilamentId)
  /-- A routine is called and comes out. -/
  | calls (routine : ρ) (o : Outcome)
  /-- The observer is told that a test case starts. -/
  | caseStarts (f : Fixture ρ) (c : TestCase ρ)
  /-- The observer is told that a test case finished, completely or not. -/
  | caseFinished (f : Fixture ρ) (c : TestCase ρ) (completed : Bool)
  /-- All threads that a default filament adopted end in time. -/
  | awaits (f : Fixture ρ) (d : FilamentId)
  /-- A default filament is taken back. -/
  | revokes (f : Fixture ρ) (d : FilamentId)
  /-- The observer is told that a fixture finished, completely or not. -/
  | fixtureFinished (f : Fixture ρ) (completed : Bool)

/-- The outcome of the call that a move is, if it is one. -/
def Move.outcome? : Move ρ → Option Outcome
  | .calls _ o => some o
  | _ => none

namespace Host

/-- The host makes a move, which takes it from one state to another. -/
def Makes (h : Host σ ρ) : Move ρ → σ → σ → Prop
  | .validates, s, s' => h.validate s = (.ok (.ok ()), s')
  | .fixtureStarts f, s, s' => h.fixtureStarts f s = (.ok (.ok ()), s')
  | .installs f d, s, s' => h.installs f s = (.ok (.ok d), s')
  | .calls routine o, s, s' => h.call routine s = (.ok (.ok o), s')
  | .caseStarts f c, s, s' => h.caseStarts f c s = (.ok (.ok ()), s')
  | .caseFinished f c completed, s, s' => h.caseFinished f c completed s = (.ok (), s')
  | .awaits f d, s, s' => h.awaits f d s = (.ok true, s')
  | .revokes f d, s, s' => h.revokes f d s = (.ok (), s')
  | .fixtureFinished f completed, s, s' => h.fixtureFinished f completed s = (.ok (), s')

/-- The host makes some moves one after the other. -/
def Performs (h : Host σ ρ) : List (Move ρ) → σ → σ → Prop
  | [], s, s' => s' = s
  | m :: ms, s, s' => ∃ s₁, h.Makes m s s₁ ∧ h.Performs ms s₁ s'

/-- As long as `I` holds, the host grants whatever is asked of it, and `I` goes on to hold: the
observer accepts every callback, threads can be bound, and none is left when it is waited for. How
routines come out is open. -/
structure Obliging (h : Host σ ρ) (I : σ → Prop) : Prop where
  validates : ∀ s, I s → ∃ s', I s' ∧ h.Makes .validates s s'
  fixtureStarts : ∀ f s, I s → ∃ s', I s' ∧ h.Makes (.fixtureStarts f) s s'
  installs : ∀ f s, I s → ∃ d s', I s' ∧ h.Makes (.installs f d) s s'
  calls : ∀ routine s, I s → ∃ o s', I s' ∧ h.Makes (.calls routine o) s s'
  caseStarts : ∀ f c s, I s → ∃ s', I s' ∧ h.Makes (.caseStarts f c) s s'
  caseFinished : ∀ f c completed s, I s → ∃ s', I s' ∧ h.Makes (.caseFinished f c completed) s s'
  awaits : ∀ f d s, I s → ∃ s', I s' ∧ h.Makes (.awaits f d) s s'
  revokes : ∀ f d s, I s → ∃ s', I s' ∧ h.Makes (.revokes f d) s s'
  fixtureFinished : ∀ f completed s, I s → ∃ s', I s' ∧ h.Makes (.fixtureFinished f completed) s s'

/-- The host that writes down what is asked of it. Its calls come out as a list says. -/
def tape (d : FilamentId) : Host (List Outcome × List (Move ρ)) ρ where
  validate := fun s => (.ok (.ok ()), s.1, s.2 ++ [.validates])
  fixtureStarts f := fun s => (.ok (.ok ()), s.1, s.2 ++ [.fixtureStarts f])
  fixtureFinished f completed := fun s => (.ok (), s.1, s.2 ++ [.fixtureFinished f completed])
  caseStarts f c := fun s => (.ok (.ok ()), s.1, s.2 ++ [.caseStarts f c])
  caseFinished f c completed := fun s => (.ok (), s.1, s.2 ++ [.caseFinished f c completed])
  call routine := fun s =>
    (.ok (.ok (s.1.headD .completed)), s.1.tail, s.2 ++ [.calls routine (s.1.headD .completed)])
  installs f := fun s => (.ok (.ok d), s.1, s.2 ++ [.installs f d])
  awaits f d := fun s => (.ok true, s.1, s.2 ++ [.awaits f d])
  revokes f d := fun s => (.ok (), s.1, s.2 ++ [.revokes f d])

end Host

/-! ### Answers -/

/-- How the calls for a test case come out. -/
structure CaseAnswers where
  /-- What comes before the test. -/
  before : Outcome
  /-- The test. -/
  test : Outcome
  /-- What comes after the test. -/
  after : Outcome

/-- How the calls of a run come out. -/
structure Answers where
  /-- The setup. -/
  setup : Outcome
  /-- The calls for the test cases, by their position among those selected. -/
  cases : Nat → CaseAnswers
  /-- The teardown. -/
  teardown : Outcome
  /-- The default filament, if one is asked for. -/
  filament : FilamentId

/-- The outcome of a routine that need not be there: one that is not there completes. -/
def outcomeOf (routine : Option ρ) (o : Outcome) : Outcome :=
  if routine.isSome then o else .completed

/-- A routine that was called, with the part it plays and how it came out. -/
structure RoutineCall (ρ : Type) where
  /-- The part it plays. -/
  role : Role
  /-- The routine. -/
  routine : ρ
  /-- How it came out. -/
  outcome : Outcome

/-- The call of a routine that need not be there. -/
def optionalCall (role : Role) (routine : Option ρ) (o : Outcome) : List (RoutineCall ρ) :=
  routine.toList.map (⟨role, ·, o⟩)

/-- The move that a call is. -/
def RoutineCall.move (c : RoutineCall ρ) : Move ρ := .calls c.routine c.outcome

namespace CaseOutcome

/-- The outcome of a test case by the calls that were made for it: an abort counts most, and then
the first failure. -/
def ofCalls (calls : List (RoutineCall ρ)) : CaseOutcome :=
  if calls.any (·.outcome = .aborted) then aborted
  else match calls.find? (·.outcome = .failed) with
    | some call => failed call.role
    | none => completed

/-- Whether a test case stops its fixture. -/
def stops (flags : ExecutionFlags) : CaseOutcome → Bool
  | completed => false
  | failed _ => flags.endsFixture || flags.endsRun
  | aborted => true

/-- The error with which a test case stops the run, if it does. -/
def error? (flags : ExecutionFlags) (fixture : String) : CaseOutcome → Option RunError
  | completed => none
  | failed role =>
    if flags.endsRun || (flags.endsFixture && flags.escalates)
    then some (.routineFailed fixture role) else none
  | aborted => some .aborted

end CaseOutcome

/-! ### Test cases -/

/-- A test case and how the calls for it come out. -/
abbrev Played (ρ : Type) := TestCase ρ × CaseAnswers

namespace Fixture

variable (f : Fixture ρ) (flags : ExecutionFlags)

/-- The calls for a test case. -/
def callsOf (p : Played ρ) : List (RoutineCall ρ) :=
  optionalCall .before f.before p.2.before
    ++ if outcomeOf f.before p.2.before = .completed
      then ⟨.testCase, p.1.routine, p.2.test⟩ :: optionalCall .after f.after p.2.after
      else []

/-- How a test case comes out. -/
def outcomeOfCase (p : Played ρ) : CaseOutcome := .ofCalls (f.callsOf p)

/-- What is asked of the host for a test case. -/
def caseTrace (p : Played ρ) : List (Move ρ) :=
  .caseStarts f p.1 :: ((f.callsOf p).map RoutineCall.move
    ++ [.caseFinished f p.1 (f.outcomeOfCase p = .completed)])

/-- The position of the first test case that stops the fixture; if none does, their number. -/
def stopIndex (ps : List (Played ρ)) : Nat := ps.findIdx fun p => (f.outcomeOfCase p).stops flags

/-- What is asked of the host for test cases: they run up to the first that stops, and this one
runs, too. -/
def casesTrace (ps : List (Played ρ)) : List (Move ρ) :=
  (ps.take (f.stopIndex flags ps + 1)).flatMap f.caseTrace

/-- The error with which the first test case that stops the fixture stops the run, if it does. -/
def casesError? (ps : List (Played ρ)) : Option RunError :=
  ps[f.stopIndex flags ps]?.bind fun p => (f.outcomeOfCase p).error? flags f.name

/-- Whether test cases are left when the fixture stops. -/
def skips (ps : List (Played ρ)) : Bool := f.stopIndex flags ps + 1 < ps.length

end Fixture

/-! ### Fixtures -/

/-- A run goes on unless there is an error. -/
def stoppedBy : Option RunError → Except RunError Unit
  | none => .ok ()
  | some e => .error e

namespace FixtureRun

variable (r : FixtureRun ρ) (a : Answers)

/-- How setup comes out. -/
def setupOutcome : Outcome := outcomeOf r.fixture.setup a.setup

/-- How teardown comes out. -/
def teardownOutcome : Outcome := outcomeOf r.fixture.teardown a.teardown

/-- The selected test cases with the outcomes of the calls for them; none are run unless setup
completes. -/
def played : List (Played ρ) :=
  if r.setupOutcome a = .completed
  then r.selected.zipIdx.map fun p => (p.1, a.cases p.2) else []

/-- The error that setup and the test cases leave, if any. -/
def earlyError? : Option RunError :=
  match r.setupOutcome a with
  | .completed => r.fixture.casesError? r.options.flags (r.played a)
  | .failed =>
    if r.options.flags.setupEndsRun || r.options.flags.endsRun
    then some (.routineFailed r.fixture.name .setup) else none
  | .aborted => some .aborted

/-- Whether teardown runs: it does unless setup stops the run. -/
def tearsDown : Bool := r.setupOutcome a = .completed || (r.earlyError? a).isNone

/-- The calls of the routines with the callbacks for the test cases. -/
def routinesTrace : List (Move ρ) :=
  (optionalCall .setup r.fixture.setup a.setup).map RoutineCall.move
    ++ (r.fixture.casesTrace r.options.flags (r.played a)
    ++ if r.tearsDown a
      then (optionalCall .teardown r.fixture.teardown a.teardown).map RoutineCall.move else [])

/-- Whether the fixture runs to completion. -/
def completes : Bool :=
  r.setupOutcome a = .completed && (r.earlyError? a).isNone
    && !r.fixture.skips r.options.flags (r.played a) && r.teardownOutcome a = .completed

/-- Everything that is asked of the host, in order. -/
def trace : List (Move ρ) :=
  .validates :: .fixtureStarts r.fixture ::
    ((if r.fixture.flags.anonymousThreads
      then .installs r.fixture a.filament :: (r.routinesTrace a
        ++ [.awaits r.fixture a.filament, .revokes r.fixture a.filament])
      else r.routinesTrace a)
    ++ [.fixtureFinished r.fixture (r.completes a)])

/-- The error that is left once teardown ran. Its abort counts most, and its failure least. -/
def errorAfterTeardown? : Option RunError :=
  match r.teardownOutcome a, r.earlyError? a with
  | .aborted, _ => some .aborted
  | _, some e => some e
  | .failed, none =>
    if r.options.flags.escalates || r.options.flags.endsRun
    then some (.routineFailed r.fixture.name .teardown) else none
  | .completed, none => none

/-- The error of the run, if it has one. -/
def error? : Option RunError := if r.tearsDown a then r.errorAfterTeardown? a else r.earlyError? a

/-- What the run comes to. -/
def verdict : Except RunError Unit := stoppedBy (r.error? a)

end FixtureRun

end Testbench
