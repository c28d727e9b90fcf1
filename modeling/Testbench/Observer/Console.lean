import Testbench.Observer.Contract

/-!
# Consoles

A console is an observer that writes down what it is told, a line each, and keeps the score. It
answers failed assertions and uncaught exceptions alike.
-/

namespace Testbench

/-- An observer that writes lines and keeps the score. -/
structure Console where
  /-- Its answer to failed assertions and uncaught exceptions. -/
  disposition : Disposition
  /-- The lines written so far. -/
  lines : Array String := #[]
  /-- The fixtures that started. -/
  fixtures : Nat := 0
  /-- The fixtures that ran to completion. -/
  completed : Nat := 0
  /-- The test cases that ran to completion. -/
  passed : Nat := 0
  /-- The other test cases that finished. -/
  failed : Nat := 0

namespace Console

/-- Writes a line. -/
def write (c : Console) (line : String) : Console := { c with lines := c.lines.push line }

/-- The answer that an event of a kind gets. -/
def query (c : Console) (kind : EventKind) : Disposition :=
  (Dispositions.mk c.disposition c.disposition).answer kind

/-- Takes an event: one line for it, and one for every frame of its stack. -/
def report (c : Console) (i : Identity) (e : Event) : Disposition × Console :=
  let origin := if i.isChild then " (child thread)" else ""
  let frames := match e.stack with
    | none => []
    | some t => t.frames
  let c := c.write ("    " ++ e.text ++ origin)
  let c := frames.foldl (fun c frame => c.write ("        " ++ frame)) c
  (c.query e.kind, c)

/-- Is told that a fixture starts. -/
def fixtureStarts (c : Console) (fixture : String) : Console :=
  { c with fixtures := c.fixtures + 1 }.write ("[----------] " ++ fixture)

/-- Is told that a fixture finished. -/
def fixtureFinished (c : Console) (fixture : String) (completed : Bool) : Console :=
  if completed then
    { c with completed := c.completed + 1 }.write ("[----------] " ++ fixture ++ " completed")
  else c.write ("[----------] " ++ fixture ++ " did not complete")

/-- Is told that a test case starts. -/
def caseStarts (c : Console) (fixture case : String) : Console :=
  c.write ("[ RUN      ] " ++ fixture ++ "::" ++ case)

/-- Is told that a test case finished. -/
def caseFinished (c : Console) (fixture case : String) (completed : Bool) : Console :=
  if completed then
    { c with passed := c.passed + 1 }.write ("[       OK ] " ++ fixture ++ "::" ++ case)
  else { c with failed := c.failed + 1 }.write ("[  FAILED  ] " ++ fixture ++ "::" ++ case)

/-- The score. -/
def summary (c : Console) : String :=
  "[==========] " ++ toString c.completed ++ " of " ++ toString c.fixtures
    ++ " fixtures completed, " ++ toString c.passed ++ " test cases passed, "
    ++ toString c.failed ++ " failed"

end Console

end Testbench
