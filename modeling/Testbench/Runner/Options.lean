import Testbench.Disposition

/-!
# Options of the runner

The command line is read from left to right: options that stand alone, options with a value behind
them or after an equals sign, and nothing else. No option is given twice. A request for help or for
the version is answered where it stands, unless something before it was wrong.
-/

namespace Testbench.Runner

/-- How much the runner says about itself. -/
inductive LogLevel
  /-- Errors only. -/
  | error
  /-- Warnings as well. -/
  | warn
  /-- What happens, in outline. -/
  | info
  /-- What happens, in detail. -/
  | debug
  /-- Everything. -/
  | trace
deriving DecidableEq, Repr

/-- What the runner is to do. -/
structure Options where
  /-- A failed test case ends its fixture. -/
  endsFixture : Bool := false
  /-- A failed setup ends the run. -/
  setupEndsRun : Bool := false
  /-- Any failure ends the run. -/
  endsRun : Bool := false
  /-- A fixture that was ended early fails the run. -/
  escalates : Bool := false
  /-- The answer to failed assertions and uncaught exceptions. -/
  disposition : Option Disposition := none
  /-- How many seconds a routine waits for its threads. -/
  joinSeconds : Option Nat := none
  /-- Events carry stacks. -/
  captureStacks : Bool := false
  /-- The only fixture to run. -/
  fixture : Option String := none
  /-- The only test case to run. -/
  case : Option String := none
  /-- The sample driver is run. -/
  driver : Bool := false
  /-- How much is said. -/
  logLevel : Option LogLevel := none
deriving DecidableEq, Repr

/-- What is asked of the runner. -/
inductive Request
  | run (o : Options)
  /-- The usage. -/
  | help
  | version
deriving DecidableEq, Repr

/-- Why a command line is refused. -/
inductive UsageError
  /-- An argument means nothing here. -/
  | unexpected (argument : String)
  /-- An option that stands alone was given a value. -/
  | unneededValue (option : String)
  /-- An option lacks its value. -/
  | missingValue (option : String)
  /-- The value of an option cannot be read. -/
  | invalidValue (option value : String)
  /-- An option was given twice. -/
  | repeated (option : String)
  /-- An option needs another one. -/
  | missingOption (option needed : String)
deriving DecidableEq, Repr

namespace UsageError

/-- The error as a line for a reader. -/
def text : UsageError → String
  | unexpected argument => "error: unexpected argument '" ++ argument ++ "' found"
  | unneededValue option => "error: unexpected value for '" ++ option ++ "' found"
  | missingValue option => "error: a value is required for '" ++ option ++ "'"
  | invalidValue option value =>
    "error: invalid value '" ++ value ++ "' for '" ++ option ++ "'"
  | repeated option => "error: the argument '" ++ option ++ "' cannot be used multiple times"
  | missingOption option needed =>
    "error: the argument '" ++ option ++ "' requires '" ++ needed ++ "'"

end UsageError

namespace Options

/-- The number that decimal digits stand for, perhaps behind a plus sign, if it is not greater than
`limit`. -/
def number? (limit : Nat) (text : String) : Option Nat :=
  let digits := match text.toList with
    | '+' :: rest => rest
    | cs => cs
  if digits.isEmpty || !digits.all Char.isDigit then none
  else
    let n := digits.foldl (fun n c => 10 * n + (c.toNat - '0'.toNat)) 0
    if n ≤ limit then some n else none

/-- The greatest word of 64 bits. -/
def maxWord : Nat := 0xffffffffffffffff

/-- The disposition of a name. -/
def disposition? : String → Option Disposition
  | "continue" => some .proceed
  | "break" => some .breakIn
  | "break-always" => some .breakAlways
  | "abort" => some .abort
  | _ => none

/-- The level of a name. -/
def namedLevel? : String → Option LogLevel
  | "error" => some .error
  | "warn" => some .warn
  | "info" => some .info
  | "debug" => some .debug
  | "trace" => some .trace
  | _ => none

/-- The level of a number. -/
def numberedLevel? : Nat → Option LogLevel
  | 1 => some .error
  | 2 => some .warn
  | 3 => some .info
  | 4 => some .debug
  | 5 => some .trace
  | _ => none

/-- The level of a name in letters of either case, or of a number. -/
def logLevel? (text : String) : Option LogLevel :=
  namedLevel? (text.map Char.toLower) <|> (number? maxWord text).bind numberedLevel?

/-- An option that stands alone. -/
inductive Flag
  /-- A failed test case ends its fixture. -/
  | endsFixture
  /-- A failed setup ends the run. -/
  | setupEndsRun
  /-- Any failure ends the run. -/
  | endsRun
  /-- A fixture that was ended early fails the run. -/
  | escalates
  /-- Events carry stacks. -/
  | captureStacks
  /-- The sample driver is run. -/
  | driver
deriving DecidableEq, Repr

/-- An option with a value. -/
inductive Setting
  /-- The answer to failed assertions and uncaught exceptions. -/
  | disposition
  /-- How many seconds a routine waits for its threads. -/
  | joinSeconds
  /-- The only fixture to run. -/
  | fixture
  /-- The only test case to run. -/
  | case
  /-- How much is said. -/
  | logLevel
deriving DecidableEq, Repr

/-- What a name on the command line means. -/
inductive Meaning
  /-- An option that stands alone. -/
  | flag (f : Flag)
  /-- An option with a value. -/
  | setting (s : Setting)
  /-- A request for the usage. -/
  | help
  /-- A request for the version. -/
  | version
deriving DecidableEq, Repr

/-- What a name means, without the dashes before it. -/
def meaning? : String → Option Meaning
  | "short-circuit-fixture" => some (.flag .endsFixture)
  | "short-circuit-setup" => some (.flag .setupEndsRun)
  | "short-circuit-run" => some (.flag .endsRun)
  | "escalate-fixture-failures" => some (.flag .escalates)
  | "stack-traces" => some (.flag .captureStacks)
  | "kernel" => some (.flag .driver)
  | "disposition" => some (.setting .disposition)
  | "join-timeout-secs" => some (.setting .joinSeconds)
  | "fixture" => some (.setting .fixture)
  | "test-case" => some (.setting .case)
  | "log-level" => some (.setting .logLevel)
  | "help" => some .help
  | "version" => some .version
  | _ => none

/-- Whether a flag is set. -/
def isSet (o : Options) : Flag → Bool
  | .endsFixture => o.endsFixture
  | .setupEndsRun => o.setupEndsRun
  | .endsRun => o.endsRun
  | .escalates => o.escalates
  | .captureStacks => o.captureStacks
  | .driver => o.driver

/-- Sets a flag. -/
def setFlag (o : Options) : Flag → Options
  | .endsFixture => { o with endsFixture := true }
  | .setupEndsRun => { o with setupEndsRun := true }
  | .endsRun => { o with endsRun := true }
  | .escalates => { o with escalates := true }
  | .captureStacks => { o with captureStacks := true }
  | .driver => { o with driver := true }

/-- Whether a setting has a value. -/
def has (o : Options) : Setting → Bool
  | .disposition => o.disposition.isSome
  | .joinSeconds => o.joinSeconds.isSome
  | .fixture => o.fixture.isSome
  | .case => o.case.isSome
  | .logLevel => o.logLevel.isSome

/-- Gives a setting the value that a text stands for. -/
def set? (o : Options) (value : String) : Setting → Option Options
  | .disposition => (disposition? value).map fun d => { o with disposition := some d }
  | .joinSeconds => (number? maxWord value).map fun n => { o with joinSeconds := some n }
  | .fixture => some { o with fixture := some value }
  | .case => some { o with case := some value }
  | .logLevel => (logLevel? value).map fun l => { o with logLevel := some l }

/-- Gives a setting a value, unless it has one. -/
def give (o : Options) (name value : String) (s : Setting) : Except UsageError Options :=
  if o.has s then .error (.repeated name)
  else match o.set? value s with
    | some o => .ok o
    | none => .error (.invalidValue name value)

/-- Sets a flag, unless it is set. -/
def raise (o : Options) (name : String) (f : Flag) : Except UsageError Options :=
  if o.isSet f then .error (.repeated name) else .ok (o.setFlag f)

/-- What is wrong with options as a whole, if anything. -/
def finished (o : Options) : Except UsageError Request :=
  if o.case.isSome && o.fixture.isNone then .error (.missingOption "--test-case" "--fixture")
  else .ok (.run o)

/-- An argument of the command line, taken apart. -/
inductive Word
  /-- Two dashes, behind which there is nothing that the runner knows. -/
  | separator
  /-- A name behind two dashes, and what stands after an equals sign. -/
  | long (name : String) (value : Option String)
  /-- Letters behind one dash. -/
  | short (letters : List Char)
  /-- Anything else. -/
  | plain
deriving DecidableEq, Repr

/-- Takes an argument apart. -/
def word (argument : String) : Word :=
  match argument.toList with
  | ['-', '-'] => .separator
  | '-' :: '-' :: cs =>
    let name := String.ofList (cs.takeWhile (· ≠ '='))
    match cs.dropWhile (· ≠ '=') with
    | _ :: value => .long name (some (String.ofList value))
    | [] => .long name none
  | '-' :: c :: cs => .short (c :: cs)
  | _ => .plain

/-- What the first letter behind a dash asks for. -/
def ofLetters (argument : String) : List Char → Except UsageError Request
  | 'h' :: _ => .ok .help
  | 'V' :: _ => .ok .version
  | _ => .error (.unexpected argument)

/-- Reads the rest of a command line. -/
def parseFrom (o : Options) : List String → Except UsageError Request
  | [] => o.finished
  | argument :: rest =>
    match word argument with
    | .plain => .error (.unexpected argument)
    | .separator =>
      match rest with
      | [] => o.finished
      | next :: _ => .error (.unexpected next)
    | .short letters => ofLetters argument letters
    | .long name value =>
      match meaning? name, value with
      | none, _ => .error (.unexpected argument)
      | some .help, none => .ok .help
      | some .version, none => .ok .version
      | some (.flag f), none =>
        match o.raise argument f with
        | .error why => .error why
        | .ok o => parseFrom o rest
      | some (.setting s), some value =>
        match o.give argument value s with
        | .error why => .error why
        | .ok o => parseFrom o rest
      | some (.setting s), none =>
        match rest with
        | [] => .error (.missingValue argument)
        | value :: rest =>
          if word value = .plain then
            match o.give argument value s with
            | .error why => .error why
            | .ok o => parseFrom o rest
          else .error (.missingValue argument)
      | some _, some _ => .error (.unneededValue argument)

/-- Reads a command line. -/
def parse (arguments : List String) : Except UsageError Request := parseFrom {} arguments

/-- The answer to failed assertions and uncaught exceptions. -/
def answer (o : Options) : Disposition := o.disposition.getD .breakIn

/-- How many seconds a routine waits for its threads. -/
def joinLimit (o : Options) : Nat := o.joinSeconds.getD 60

end Options

end Testbench.Runner
