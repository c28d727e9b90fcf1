/-!
# How the runner is used

The text that a request for help is answered with: what the runner is for, how it is called, and its
options, each with a line about it.
-/

namespace Testbench.Runner

/-- The name and the version of the runner. -/
def versionLine : String := "harness_run 0.0.0"

/-- The options as they are written, each with what it is for. -/
def optionTexts : List (String × String) := [
  ("    --short-circuit-fixture", "Skip the remaining test cases of a fixture after a failure"),
  ("    --short-circuit-setup", "Abort the run when a setup routine fails"),
  ("    --short-circuit-run", "Abort the run on any failure"),
  ("    --escalate-fixture-failures", "Fail the run when a fixture was short-circuited"),
  ("    --disposition <DISPOSITION>", "Reaction to failed assertions and uncaught exceptions "
    ++ "[default: break] [possible values: continue, break, break-always, abort]"),
  ("    --join-timeout-secs <SECONDS>", "Seconds a routine waits for its child threads "
    ++ "[default: 60]"),
  ("    --stack-traces", "Attach stack traces to reported events"),
  ("    --fixture <NAME>", "Run only the named fixture"),
  ("    --test-case <NAME>", "Run only the named test case of the selected fixture"),
  ("    --kernel", "Run the sample driver through the kernel shim instead of the user-mode "
    ++ "sample module"),
  ("    --log-level <LOG_LEVEL>", "Maximum level of diagnostic output [default: warn]"),
  ("-h, --help", "Print help"),
  ("-V, --version", "Print version")]

/-- The lines that tell how the runner is used. -/
def usageLines : List String :=
  ["Run test fixtures and report the results", "", "Usage: harness_run [OPTIONS]", "", "Options:"]
    ++ optionTexts.flatMap fun (option, text) => ["  " ++ option, "          " ++ text]

end Testbench.Runner
