/-!
# Things under names

A list of things under names of somebody's choosing, in the order in which the names were first
used. Putting a thing under a name that is in use replaces the one that was there.
-/

namespace Testbench

/-- Things under names. -/
structure Names (α : Type) where
  /-- The names with their things. -/
  entries : List (String × α) := []

namespace Names

variable {α : Type}

/-- The thing under a name. -/
def get? (n : Names α) (name : String) : Option α :=
  (n.entries.find? (·.1 = name)).map Prod.snd

/-- Puts a thing under a name in a list of entries. -/
def putIn (name : String) (a : α) : List (String × α) → List (String × α)
  | [] => [(name, a)]
  | e :: es => if e.1 = name then (name, a) :: es else e :: putIn name a es

/-- Puts a thing under a name. -/
def put (n : Names α) (name : String) (a : α) : Names α := ⟨putIn name a n.entries⟩

/-- Takes away what is under a name. -/
def erase (n : Names α) (name : String) : Names α := ⟨n.entries.filter (·.1 ≠ name)⟩

end Names

end Testbench
