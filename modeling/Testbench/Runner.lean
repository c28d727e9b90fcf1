import Testbench.Run.Plan
import Testbench.Runner.Options
import Testbench.Runner.Sample
import Testbench.Runner.Usage

/-!
# The console runner

The runner runs one of the sample modules before a console: a sequence of its fixtures, or one of
them, or one test case of one. Its exit code tells how that went: zero if every test case passed,
one if not or if there was nothing to run, two if the command line is refused, and 101 if something
unwound that no boundary kept.
-/

namespace Testbench

namespace Runner

open World

/-- The address of the sample driver. -/
def driverAddress : UInt64 := 0xfffff80010000000

/-- Why the runner does not report success. -/
inductive Failure
  /-- There is no fixture of that name. -/
  | noFixture (name : String)
  /-- The fixture has no such test case. -/
  | noCase (why : RunError)
  /-- So many test cases failed. -/
  | casesFailed (count : Nat)
  /-- The observer stopped the run. -/
  | aborted
  /-- The run stopped. -/
  | run (why : RunError)
  /-- The sample driver was not connected. -/
  | connect (why : ConnectError)
  /-- The module of the sample driver was not loaded. -/
  | load (why : ClientError)
deriving Repr

instance : Text.Explained Failure where
  cause
    | .noFixture name => ⟨"Failure", "no fixture named " ++ name⟩
    | .noCase why => Text.Explained.cause why
    | .casesFailed count => ⟨"Failure", toString count ++ " test cases failed"⟩
    | .aborted => ⟨"Failure", "run aborted"⟩
    | .run _ => ⟨"Failure", "run failed"⟩
    | .connect _ => ⟨"Failure", "failed to connect the sample driver"⟩
    | .load _ => ⟨"Failure", "failed to load the sample driver's module"⟩
  sources
    | .noCase why => Text.Explained.sources why
    | .run why => Text.explain why
    | .connect why => Text.explain why
    | .load why => Text.explain why
    | .noFixture _ | .casesFailed _ | .aborted => []

/-- The lines about the causes of a failure, numbered if there are several. -/
def causeLines (causes : List Text.Cause) : List String :=
  match causes with
  | [] => []
  | [c] => ["", "Caused by:", "    " ++ c.message]
  | cs => ["", "Caused by:"] ++
    cs.zipIdx.map fun (c, i) => "    " ++ toString i ++ ": " ++ c.message

/-- The lines about a failure. -/
def failureLines (f : Failure) : List String :=
  ("Error: " ++ Text.message f) :: causeLines (Text.Explained.sources f)

/-- How to run fixtures, by the options. -/
def executionOptions (o : Options) : ExecutionOptions where
  flags := ((({} : ExecutionFlags).withEndsFixture o.endsFixture).withSetupEndsRun o.setupEndsRun
    |>.withEndsRun o.endsRun).withEscalates o.escalates
  joinLimit := .ofSeconds o.joinLimit
  captureStacks := o.captureStacks

/-- A fixture to be run, by the options. -/
def jobOf (o : Options) (f : Fixture Sample) : Except RunError (Job Sample) := do
  let run : FixtureRun Sample := { fixture := f, options := executionOptions o }
  match o.case with
  | none => return ⟨run, Sample.sharedRegistry⟩
  | some name => return ⟨← run.select name, Sample.sharedRegistry⟩

/-- Whether a fixture is to be run. -/
def isWanted (o : Options) (f : Fixture Sample) : Bool :=
  match o.fixture with
  | none => true
  | some name => name == f.name

/-- The fixtures to be run, by the options. -/
def jobsOf (o : Options) (m : Module Sample) : Except Failure (List (Job Sample)) :=
  match (m.fixtures.filter (isWanted o)).mapM (jobOf o) with
  | .error why => .error (.noCase why)
  | .ok [] =>
    match o.fixture with
    | none => .ok []
    | some name => .error (.noFixture name)
  | .ok jobs => .ok jobs

/-- Connects the sample driver and loads its module. -/
def loadDriver (o : Options) : Sample.Play (Except Failure (Module Sample)) := do
  changeDevice fun d => { d with joinLimit := .ofSeconds o.joinLimit }
  match ← Driver.connect driverAddress Sink.version₃ fun s => return Sample.driverModule s with
  | .error why => return .error (.connect why)
  | .ok _ =>
    match ← Client.load Sample.run { registry := Sample.sharedRegistry } driverAddress
        "sample_driver" with
    | .error why => return .error (.load why)
    | .ok m => return .ok ⟨m.name, ← m.fixtures.mapM (·.mapM fun r => return .remote r)⟩

/-- The module to be run, by the options. -/
def moduleOf (o : Options) : Sample.Play (Except Failure (Module Sample)) :=
  if o.driver then loadDriver o else return .ok Sample.programModule

/-- The console behind an observer. -/
def consoleOf (o : ObserverId) : Sample.Play Console :=
  tell o { disposition := .proceed } fun
    | .console c => (c, .console c)
    | x => ({ disposition := .proceed }, x)

/-! ### Runs -/

/-- What a run came to, by its result and the score. -/
def verdict (c : Console) : Except RunError Unit → Except Failure Unit
  | .ok () => if c.failed = 0 then .ok () else .error (.casesFailed c.failed)
  | .error .aborted => .error .aborted
  | .error why => .error (.run why)

/-- Runs what the options ask for before a console, and sums up. -/
def perform (o : Options) (console : ObserverId) : Sample.Play (Except Failure Unit) := do
  match ← moduleOf o with
  | .error why => return .error why
  | .ok m =>
    match jobsOf o m with
    | .error why => return .error why
    | .ok jobs =>
      let result ← Plan.inOrder (Job.perform Sample.run console) jobs
      let c ← consoleOf console
      inform console fun
        | .console c => .console (c.write c.summary)
        | x => x
      return verdict c result

/-- What the runner leaves behind. -/
structure Report where
  exitCode : Nat
  /-- The lines of its output. -/
  output : List String
  /-- The lines about what went wrong. -/
  errors : List String
deriving DecidableEq, Repr

/-- A world with one registry and a console. -/
def start (o : Options) : World Sample Tally :=
  { store := {}
    roster := { registries := ⟨#[⟨.program, {}, none⟩]⟩ }
    observers := ⟨#[.console { disposition := o.answer }]⟩ }

/-- The lines that a console wrote. -/
def linesOf (w : World Sample Tally) (console : ObserverId) : List String :=
  match w.observers.get? console with
  | some (.console c) => c.lines.toList
  | _ => []

/-- Runs what the options ask for. -/
def run (o : Options) : Report :=
  match perform o 0 (start o) with
  | (.ok (.ok ()), w) => ⟨0, linesOf w 0, []⟩
  | (.ok (.error why), w) => ⟨1, linesOf w 0, failureLines why⟩
  | (.error _, w) => ⟨101, linesOf w 0, ["a routine unwound and nobody caught it"]⟩

end Runner

/-- What the runner does with its command line. -/
def runner (arguments : List String) : Runner.Report :=
  match Runner.Options.parse arguments with
  | .error why => ⟨2, [], [why.text]⟩
  | .ok .help => ⟨0, Runner.usageLines, []⟩
  | .ok .version => ⟨0, [Runner.versionLine], []⟩
  | .ok (.run o) => Runner.run o

end Testbench
