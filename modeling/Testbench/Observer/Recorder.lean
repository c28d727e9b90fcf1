import Testbench.Observer.Contract
import Testbench.Observer.Counts

/-!
# Recorders

A recorder is an observer that keeps books. One is the history: every callback about fixtures, test
cases and events in the order in which it came, with the events themselves beside it. The other is a
record of counts for every main thread; what a child thread reports is counted for its main thread.
How it answers is set from outside.
-/

namespace Testbench

/-- An entry of the history. -/
inductive Callback
  /-- A fixture started. -/
  | beforeFixture (fixture : String)
  /-- A fixture finished. -/
  | afterFixture (fixture : String) (completed : Bool)
  /-- A test case started. -/
  | beforeCase (case : String)
  /-- A test case finished. -/
  | afterCase (case : String) (completed : Bool)
  /-- An event of some kind was reported. -/
  | event (kind : EventKind) (subject : String)
deriving DecidableEq, Repr

/-- How a recorder answers. -/
structure Recorder.Policy where
  /-- The version of the contract it was made for. -/
  version : UInt32 := contractVersion
  /-- Its answers to events. -/
  dispositions : Dispositions
  /-- The fixtures it refuses. -/
  refusedFixtures : List String := []
  /-- The test cases it refuses. -/
  refusedCases : List String := []
  /-- How it starts child threads. -/
  threadStart : ThreadStart := .started
  /-- Its answers to the next events, whatever their kind. -/
  script : List Disposition := []

/-- An observer that keeps books. -/
structure Recorder where
  /-- How it answers. -/
  policy : Recorder.Policy
  /-- The callbacks, in order. -/
  history : Array Callback := #[]
  /-- The events, in order. -/
  events : Array Event := #[]
  /-- The messages of panics that no report explained, in order. -/
  unhandled : Array String := #[]
  /-- The counts of every main thread that was heard of. -/
  counts : List (ThreadId × EventCounts) := []

namespace Recorder

/-- A recorder that answers failed assertions and uncaught exceptions alike. -/
def answering (d : Disposition) : Recorder := { policy := { dispositions := ⟨d, d⟩ } }

/-- Changes the counts of a main thread in a list of records, which begins one if there is none. -/
def updateCounts (t : ThreadId) (f : EventCounts → EventCounts) :
    List (ThreadId × EventCounts) → List (ThreadId × EventCounts)
  | [] => [(t, f {})]
  | (s, c) :: rest => if s = t then (s, f c) :: rest else (s, c) :: updateCounts t f rest

/-- Changes the counts that callbacks of an identity go to. -/
def count (r : Recorder) (i : Identity) (f : EventCounts → EventCounts) : Recorder :=
  { r with counts := updateCounts i.mainThread f r.counts }

/-- The counts of a main thread. -/
def countsFor (r : Recorder) (t : ThreadId) : EventCounts :=
  match r.counts.find? (·.1 = t) with
  | some (_, c) => c
  | none => {}

/-- The counts of all main threads together. -/
def totals (r : Recorder) : EventCounts := (r.counts.map Prod.snd).foldl (· + ·) {}

/-- Adds a callback to the history. -/
def remember (r : Recorder) (c : Callback) : Recorder := { r with history := r.history.push c }

/-- A word for a truth value. -/
def bit (b : Bool) : UInt32 := if b then 1 else 0

/-- Counts an event of a kind. -/
def countEvent (kind : EventKind) (c : EventCounts) : EventCounts :=
  match kind with
  | .failedAssertion => { c with failedAssertions := c.failedAssertions + 1 }
  | .uncaughtException => { c with uncaughtExceptions := c.uncaughtExceptions + 1 }
  | .inconclusiveness => { c with inconclusive := c.inconclusive + 1 }
  | .log => { c with logs := c.logs + 1 }

/-- The answer that an event of a kind would get if nothing else were set. -/
def query (r : Recorder) (kind : EventKind) : Disposition := r.policy.dispositions.answer kind

/-- Takes an event. -/
def report (r : Recorder) (i : Identity) (e : Event) : Disposition × Recorder :=
  let r := (r.count i (countEvent e.kind)).remember (.event e.kind e.subject)
  let r := { r with events := r.events.push e }
  match r.policy.script with
  | [] => (r.query e.kind, r)
  | d :: rest => (d, { r with policy := { r.policy with script := rest } })

/-- Is told that a fixture starts. -/
def fixtureStarts (r : Recorder) (i : Identity) (fixture : String) :
    Except ObserverError Unit × Recorder :=
  let r := (r.count i fun c => { c with beforeFixture := c.beforeFixture + 1 }).remember
    (.beforeFixture fixture)
  if fixture ∈ r.policy.refusedFixtures then
    (.error (.refused "before_fixture_start" (.fixture fixture)), r)
  else (.ok (), r)

/-- Is told that a fixture finished. -/
def fixtureFinished (r : Recorder) (i : Identity) (fixture : String) (completed : Bool) :
    Recorder :=
  (r.count i fun c => { c with
    afterFixture := c.afterFixture + 1
    fixturesCompleted := c.fixturesCompleted + bit completed }).remember
      (.afterFixture fixture completed)

/-- Is told that a test case starts. -/
def caseStarts (r : Recorder) (i : Identity) (case : String) :
    Except ObserverError Unit × Recorder :=
  let r := (r.count i fun c => { c with beforeCase := c.beforeCase + 1 }).remember
    (.beforeCase case)
  if case ∈ r.policy.refusedCases then
    (.error (.refused "before_test_case_start" (.other "test refused")), r)
  else (.ok (), r)

/-- Is told that a test case finished. -/
def caseFinished (r : Recorder) (i : Identity) (case : String) (completed : Bool) : Recorder :=
  (r.count i fun c => { c with
    afterCase := c.afterCase + 1
    casesCompleted := c.casesCompleted + bit completed }).remember (.afterCase case completed)

/-- Is told that a child thread is bound and about to run. -/
def childStarts (r : Recorder) (i : Identity) : Recorder :=
  r.count i fun c => { c with childrenStarted := c.childrenStarted + 1 }

/-- Is told that a child thread returned or unwound. -/
def childFinished (r : Recorder) (i : Identity) : Recorder :=
  r.count i fun c => { c with childrenFinished := c.childrenFinished + 1 }

/-- Is told of a panic that no report explained. -/
def unhandledException (r : Recorder) (message : String) : Recorder :=
  { r with unhandled := r.unhandled.push message }

end Recorder

end Testbench
