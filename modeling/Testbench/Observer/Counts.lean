/-!
# Counts of callbacks

How often an observer was told what, as words that wrap around.
-/

namespace Testbench

/-- How often an observer was told what. -/
structure EventCounts where
  /-- Fixtures that started. -/
  beforeFixture : UInt32 := 0
  /-- Fixtures that finished. -/
  afterFixture : UInt32 := 0
  /-- Fixtures that ran to completion. -/
  fixturesCompleted : UInt32 := 0
  /-- Test cases that started. -/
  beforeCase : UInt32 := 0
  /-- Test cases that finished. -/
  afterCase : UInt32 := 0
  /-- Test cases that ran to completion. -/
  casesCompleted : UInt32 := 0
  failedAssertions : UInt32 := 0
  uncaughtExceptions : UInt32 := 0
  /-- Inconclusive results. -/
  inconclusive : UInt32 := 0
  /-- Messages. -/
  logs : UInt32 := 0
  /-- Child threads that started. -/
  childrenStarted : UInt32 := 0
  /-- Child threads that finished. -/
  childrenFinished : UInt32 := 0
deriving DecidableEq, Repr, Inhabited

namespace EventCounts

/-- Combines two counts field by field. -/
def zipWith (f : UInt32 → UInt32 → UInt32) (a b : EventCounts) : EventCounts where
  beforeFixture := f a.beforeFixture b.beforeFixture
  afterFixture := f a.afterFixture b.afterFixture
  fixturesCompleted := f a.fixturesCompleted b.fixturesCompleted
  beforeCase := f a.beforeCase b.beforeCase
  afterCase := f a.afterCase b.afterCase
  casesCompleted := f a.casesCompleted b.casesCompleted
  failedAssertions := f a.failedAssertions b.failedAssertions
  uncaughtExceptions := f a.uncaughtExceptions b.uncaughtExceptions
  inconclusive := f a.inconclusive b.inconclusive
  logs := f a.logs b.logs
  childrenStarted := f a.childrenStarted b.childrenStarted
  childrenFinished := f a.childrenFinished b.childrenFinished

/-- The counts of two runs together. -/
def add (a b : EventCounts) : EventCounts := zipWith (· + ·) a b

instance : Add EventCounts := ⟨add⟩

/-- The counts of so many equal runs. -/
def scaled (a : EventCounts) (factor : UInt32) : EventCounts := zipWith (fun x _ => x * factor) a a

/-- The counts in the order of the fields. -/
def toList (a : EventCounts) : List UInt32 :=
  [a.beforeFixture, a.afterFixture, a.fixturesCompleted, a.beforeCase, a.afterCase,
    a.casesCompleted, a.failedAssertions, a.uncaughtExceptions, a.inconclusive, a.logs,
    a.childrenStarted, a.childrenFinished]

/-- The counts of a list in the order of the fields; missing ones are zero. -/
def ofList (l : List UInt32) : EventCounts where
  beforeFixture := l.getD 0 0
  afterFixture := l.getD 1 0
  fixturesCompleted := l.getD 2 0
  beforeCase := l.getD 3 0
  afterCase := l.getD 4 0
  casesCompleted := l.getD 5 0
  failedAssertions := l.getD 6 0
  uncaughtExceptions := l.getD 7 0
  inconclusive := l.getD 8 0
  logs := l.getD 9 0
  childrenStarted := l.getD 10 0
  childrenFinished := l.getD 11 0

end EventCounts

end Testbench
