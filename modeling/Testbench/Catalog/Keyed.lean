import Testbench.Catalog
import Testbench.Disposition

/-!
# Keys of routines

Across the border between a driver and its client a routine is named by two numbers of 16 bits: the
position of its fixture in the module, and its own position among the fixture's routines, which are
counted in the order setup, before, after, test cases, teardown, leaving out those that are not
there.
-/

namespace Testbench

variable {ρ : Type}

namespace Keyed

/-- A routine with its role and the name it is shown by. -/
structure Entry (ρ : Type) where
  /-- The part it plays in its fixture. -/
  role : Role
  /-- Its name: a test case has its own, and the others go by their role. -/
  name : String
  /-- What runs. -/
  routine : ρ

/-- The numbered routines of a fixture. -/
structure Group (ρ : Type) where
  /-- The name of the fixture. -/
  name : String
  /-- Its routines, in the order of their keys. -/
  entries : Array (Entry ρ)

/-- The entry of a routine that need not be there. -/
def optional (role : Role) (name : String) (routine : Option ρ) : List (Entry ρ) :=
  (routine.map fun r => ⟨role, name, r⟩).toList

/-- The routines of a fixture in the order of their keys. -/
def entriesOf (f : Fixture ρ) : List (Entry ρ) :=
  optional .setup "Setup" f.setup ++ optional .before "Before" f.before
    ++ optional .after "After" f.after
    ++ f.cases.map (fun c => ⟨.testCase, c.name, c.routine⟩)
    ++ optional .teardown "Teardown" f.teardown

end Keyed

/-- The numbered routines of a module. -/
structure Keyed (ρ : Type) where
  /-- The fixtures, in the order of their keys. -/
  groups : Array (Keyed.Group ρ)

namespace Keyed

/-- Why a module cannot be numbered. -/
inductive Refusal
  /-- It has more fixtures than there are keys. -/
  | tooManyFixtures (count : Nat)
  /-- A fixture has more routines than there are keys. -/
  | tooManyRoutines (fixture : String) (count : Nat)
  /-- Written out, it takes more bytes than an offset reaches. -/
  | tooLarge
deriving DecidableEq, Repr

instance : Text.Explained Refusal where
  cause
    | .tooManyFixtures count =>
      ⟨"TooManyFixtures", "module has too many fixtures (" ++ toString count ++ ")"⟩
    | .tooManyRoutines fixture count =>
      ⟨"TooManyRoutines",
        "fixture " ++ fixture ++ " has too many routines (" ++ toString count ++ ")"⟩
    | .tooLarge => ⟨"TooLarge", "serialized module does not fit a 32-bit size"⟩
  sources _ := []

/-- The greatest number of things that keys of 16 bits tell apart here. -/
def maxKeys : Nat := 0xffff

/-- Numbers the routines of some fixtures, unless one of them has too many. -/
def groupsOf? : List (Fixture ρ) → List (Group ρ) → Except Refusal (List (Group ρ))
  | [], done => .ok done.reverse
  | f :: fs, done =>
    let entries := (entriesOf f).toArray
    if maxKeys < entries.size then .error (.tooManyRoutines f.name entries.size)
    else groupsOf? fs (⟨f.name, entries⟩ :: done)

/-- The bytes that the numbers of a written module take. -/
def recordsSize (k : Keyed ρ) : Nat :=
  4 + k.groups.toList.foldr (fun g n => 16 + 16 * g.entries.size + n) 0

/-- The bytes that the names of a fixture and its routines take. -/
def Group.namesSize (g : Group ρ) : Nat :=
  g.entries.toList.foldr (fun e n => e.name.utf8ByteSize + n) g.name.utf8ByteSize

/-- The bytes that the names of a written module take. -/
def namesSize (k : Keyed ρ) : Nat :=
  k.groups.toList.foldr (fun g n => g.namesSize + n) 0

/-- The bytes that a written module takes. -/
def size (k : Keyed ρ) : Nat := k.recordsSize + k.namesSize

/-- Numbers the fixtures and routines of a module. -/
def ofModule? (m : Module ρ) : Except Refusal (Keyed ρ) :=
  if maxKeys < m.fixtures.length then .error (.tooManyFixtures m.fixtures.length)
  else match groupsOf? m.fixtures [] with
    | .error why => .error why
    | .ok groups =>
      let k : Keyed ρ := ⟨groups.toArray⟩
      if 0xffffffff < k.size then .error .tooLarge else .ok k

/-- The routine that two keys name. -/
def routine? (k : Keyed ρ) (fixture routine : UInt16) : Option ρ := do
  let g ← k.groups[fixture.toNat]?
  let e ← g.entries[routine.toNat]?
  return e.routine

end Keyed

end Testbench
