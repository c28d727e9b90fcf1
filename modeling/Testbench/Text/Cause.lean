/-!
# Explaining a failure

Every error type of the library is an inductive type of causes. What a reader is told about one is
a chain of `Cause`s: the failure itself first, then what brought it about, and so on. The texts are
written here and in the `Explained` instances beside each error type, and nowhere else.
-/

namespace Testbench.Text

/-- One link in the explanation of a failure. -/
structure Cause where
  /-- The sort of failure, as a single word. -/
  kind : String
  /-- What went wrong, as a phrase. -/
  message : String
deriving DecidableEq, Repr

/-- An error type whose values can be explained. -/
class Explained (ε : Type) where
  /-- The failure itself. -/
  cause : ε → Cause
  /-- What brought it about, outermost first. -/
  sources : ε → List Cause

/-- The whole explanation, the failure itself first. -/
def explain {ε : Type} [Explained ε] (e : ε) : List Cause :=
  Explained.cause e :: Explained.sources e

/-- The phrase a failure is reported with. -/
def message {ε : Type} [Explained ε] (e : ε) : String := (Explained.cause e).message

end Testbench.Text
