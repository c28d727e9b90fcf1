import Testbench.Observer.Channel
import Testbench.Observer.Console
import Testbench.Observer.Recorder

/-!
# Observers

The observers there are, and the contract as functions on all of them. A callback answers and leaves
a changed observer behind.
-/

namespace Testbench

/-- An observer of a run. -/
inductive Observer
  /-- Keeps books. -/
  | recorder (r : Recorder)
  /-- Collects events for a driver's client. -/
  | channel (c : Channel)
  /-- Writes lines. -/
  | console (c : Console)

namespace Observer

/-- The version of the contract it was made for. -/
def version : Observer → UInt32
  | recorder r => r.policy.version
  | channel _ | console _ => contractVersion

/-- Rejects an observer that was made for another version of the contract. -/
def validate (o : Observer) : Except ObserverError Unit :=
  if o.version = contractVersion then .ok ()
  else .error (.versionMismatch o.version contractVersion)

/-- Takes an event and decides how the reporting thread goes on. -/
def report (o : Observer) (i : Identity) (e : Event) : Disposition × Observer :=
  match o with
  | recorder r => let (d, r) := r.report i e; (d, recorder r)
  | channel c => let (d, c) := c.report e; (d, channel c)
  | console c => let (d, c) := c.report i e; (d, console c)

/-- Decides about events of a kind without having one reported. -/
def query (o : Observer) (kind : EventKind) : Disposition :=
  match o with
  | recorder r => r.query kind
  | channel c => c.query kind
  | console c => c.query kind

/-- Is told that a fixture starts, and may refuse. -/
def fixtureStarts (o : Observer) (i : Identity) (fixture : String) :
    Except ObserverError Unit × Observer :=
  match o with
  | recorder r => let (a, r) := r.fixtureStarts i fixture; (a, recorder r)
  | channel c => (.ok (), channel c)
  | console c => (.ok (), console (c.fixtureStarts fixture))

/-- Is told that a fixture finished. -/
def fixtureFinished (o : Observer) (i : Identity) (fixture : String) (completed : Bool) :
    Observer :=
  match o with
  | recorder r => recorder (r.fixtureFinished i fixture completed)
  | channel c => channel c
  | console c => console (c.fixtureFinished fixture completed)

/-- Is told that a test case of a fixture starts, and may refuse. -/
def caseStarts (o : Observer) (i : Identity) (fixture case : String) :
    Except ObserverError Unit × Observer :=
  match o with
  | recorder r => let (a, r) := r.caseStarts i case; (a, recorder r)
  | channel c => (.ok (), channel c)
  | console c => (.ok (), console (c.caseStarts fixture case))

/-- Is told that a test case of a fixture finished. -/
def caseFinished (o : Observer) (i : Identity) (fixture case : String) (completed : Bool) :
    Observer :=
  match o with
  | recorder r => recorder (r.caseFinished i case completed)
  | channel c => channel c
  | console c => console (c.caseFinished fixture case completed)

/-- Starts a child thread, or does not. -/
def threadStart : Observer → ThreadStart
  | recorder r => r.policy.threadStart
  | channel _ | console _ => .started

/-- Is told that a child thread is bound and about to run. -/
def childStarts (o : Observer) (i : Identity) : Observer :=
  match o with
  | recorder r => recorder (r.childStarts i)
  | channel c => channel c
  | console c => console c

/-- Is told that a child thread returned or unwound. -/
def childFinished (o : Observer) (i : Identity) : Observer :=
  match o with
  | recorder r => recorder (r.childFinished i)
  | channel c => channel c
  | console c => console c

/-- Is told of a panic that no report explained, before the event about it. -/
def unhandledException (o : Observer) (message : String) : Observer :=
  match o with
  | recorder r => recorder (r.unhandledException message)
  | channel c => channel c
  | console c => console c

/-- Puts an event on record without asking for an answer; only channels do that. -/
def queue (o : Observer) (e : Event) : Observer :=
  match o with
  | channel c => channel (c.queue e).2
  | recorder r => recorder r
  | console c => console c

/-- The channel that an observer is. -/
def channel? : Observer → Option Channel
  | channel c => some c
  | recorder _ | console _ => none

end Observer

end Testbench
