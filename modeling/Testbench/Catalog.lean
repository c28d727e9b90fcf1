import Testbench.Flags
import Testbench.Text.Quoted

/-!
# Catalogs

A module is a named list of fixtures, and a fixture a named list of test cases together with the
routines that frame them. What a routine is does not matter here: the type `ρ` of routines is a
parameter of everything, and a catalog only says which routine stands where.
-/

namespace Testbench

variable {ρ : Type}

/-- A named routine of a fixture. -/
structure TestCase (ρ : Type) where
  name : String
  /-- What runs. -/
  routine : ρ

/-- A named group of test cases. -/
structure Fixture (ρ : Type) where
  name : String
  /-- Runs once, before the first test case. -/
  setup : Option ρ
  /-- Runs once, after the last test case. -/
  teardown : Option ρ
  /-- Runs before every test case. -/
  before : Option ρ
  /-- Runs after every test case. -/
  after : Option ρ
  /-- The test cases, in the order in which they were declared. -/
  cases : List (TestCase ρ)
  /-- What the fixture asks of those who run it. -/
  flags : FixtureFlags
  /-- The name of the module it belongs to; a fixture may stand alone. -/
  home : Option String

/-- A named list of fixtures. -/
structure Module (ρ : Type) where
  name : String
  /-- The fixtures, in the order in which they were declared. -/
  fixtures : List (Fixture ρ)

namespace Fixture

/-- A fixture without routines. -/
def blank (name : String) : Fixture ρ := ⟨name, none, none, none, none, [], {}, none⟩

/-- The fixture with a routine made of each of its own. -/
def mapM {α β : Type} {m : Type → Type} [Monad m] (make : α → m β) (f : Fixture α) :
    m (Fixture β) := do
  let setup ← f.setup.mapM make
  let teardown ← f.teardown.mapM make
  let before ← f.before.mapM make
  let after ← f.after.mapM make
  let cases ← f.cases.mapM fun c => do return ⟨c.name, ← make c.routine⟩
  return ⟨f.name, setup, teardown, before, after, cases, f.flags, f.home⟩

/-- The position of the first test case of a name. -/
def findCase? (f : Fixture ρ) (name : String) : Option Nat := f.cases.findIdx? (·.name = name)

/-- Words for a truth value. -/
def boolText (b : Bool) : String := if b then "true" else "false"

/-- A test case in full, its routine left out. -/
def caseText (c : TestCase ρ) : String := "TestCase \x7b name: " ++ Text.quoted c.name ++ " \x7d"

/-- A fixture in full, with its routines told only as present or not. -/
def text (f : Fixture ρ) : String :=
  "Fixture \x7b name: " ++ Text.quoted f.name
    ++ ", setup: " ++ boolText f.setup.isSome
    ++ ", teardown: " ++ boolText f.teardown.isSome
    ++ ", before: " ++ boolText f.before.isSome
    ++ ", after: " ++ boolText f.after.isSome
    ++ ", test_cases: [" ++ ", ".intercalate (f.cases.map caseText)
    ++ "], flags: FixtureFlags \x7b uses_anonymous_threads: "
    ++ boolText f.flags.anonymousThreads ++ " \x7d \x7d"

end Fixture

namespace Module

/-- The module of some fixtures, which belong to it from then on. -/
def ofFixtures (name : String) (fixtures : List (Fixture ρ)) : Module ρ :=
  ⟨name, fixtures.map fun f => { f with home := some name }⟩

/-- The position of the first fixture of a name. -/
def findFixture? (m : Module ρ) (name : String) : Option Nat :=
  m.fixtures.findIdx? (·.name = name)

/-- A module in full. -/
def text (m : Module ρ) : String :=
  "Module \x7b name: " ++ Text.quoted m.name ++ ", fixtures: ["
    ++ ", ".intercalate (m.fixtures.map Fixture.text) ++ "] \x7d"

end Module

end Testbench
