import Testbench.Observer.Recorder

/-!
# Settings of recorders

What can be set of a recorder, all of it optional. A recorder is made from settings, where what is
left open has a default, and it is changed by settings, where what is left open stays as it is. The
common answer and the version of the contract are set once and for all: in settings that change a
recorder they mean nothing.
-/

namespace Testbench

/-- What can be set of a recorder. -/
structure Settings where
  /-- The answer to failed assertions and uncaught exceptions that a recorder starts with. -/
  disposition : Option Disposition := none
  /-- The answer to failed assertions, in place of the common one. -/
  failedAssertion : Option Disposition := none
  /-- The answer to uncaught exceptions, in place of the common one. -/
  uncaughtException : Option Disposition := none
  /-- The version of the contract. -/
  version : Option UInt32 := none
  /-- Fixtures that are refused. -/
  refusedFixtures : List String := []
  /-- Test cases that are refused. -/
  refusedCases : List String := []
  /-- How child threads are started. -/
  threadStart : Option ThreadStart := none
  /-- Answers to the next events. -/
  script : Option (List Disposition) := none

namespace Settings

/-- Settings that leave everything but the common answer open. -/
def answering (d : Disposition) : Settings := { disposition := some d }

/-- The answers that a recorder starts with, before those in place of the common one. Left open, the
common answer lets the run go on. -/
def common (s : Settings) : Dispositions :=
  let d := s.disposition.getD .proceed
  ⟨d, d⟩

/-- Answers as they become by settings. -/
def dispositions (s : Settings) (d : Dispositions) : Dispositions :=
  ⟨s.failedAssertion.getD d.failedAssertion, s.uncaughtException.getD d.uncaughtException⟩

/-- A policy as it becomes by settings. -/
def applyTo (s : Settings) (p : Recorder.Policy) : Recorder.Policy where
  version := p.version
  dispositions := s.dispositions p.dispositions
  refusedFixtures := p.refusedFixtures ++ s.refusedFixtures
  refusedCases := p.refusedCases ++ s.refusedCases
  threadStart := s.threadStart.getD p.threadStart
  script := s.script.getD p.script

/-- The policy of a recorder that is made from settings. -/
def policy (s : Settings) : Recorder.Policy :=
  s.applyTo { version := s.version.getD contractVersion, dispositions := s.common }

/-- A recorder made from settings. -/
def recorder (s : Settings) : Recorder := { policy := s.policy }

/-- A recorder changed by settings. -/
def configure (s : Settings) (r : Recorder) : Recorder := { r with policy := s.applyTo r.policy }

end Settings

end Testbench
