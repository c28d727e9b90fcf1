import Testbench.Boundary
import Testbench.Proofs.World

/-!
# Waits

A call waits for its threads at most as long as its limit says.  The clock ends somewhere, and a wait
that would last longer than that panics before it begins, so that the call unwinds where it stands:
it does not let its thread go, and it forgets how the routine ended.
-/

namespace Testbench

open World

variable {ρ ε α : Type} {w : World ρ ε} {f : FilamentId} {limit : Duration}

/-- The panic of a wait that the clock cannot time. -/
def untimed : Payload := .panic (some World.untimedText)

/-- The most seconds that can be asked for, which no clock can time. -/
def eternity : Duration := .ofSeconds 18446744073709551615

namespace World

lemma joinChildren_timed (h : limit.Timed) (f : FilamentId) :
    (joinChildren f limit : Act ρ ε (Except FilamentError Unit))
      = seeFilament f (.ok ()) (·.join limit) := if_pos h

lemma joinChildren_untimed (h : ¬ limit.Timed) (f : FilamentId) :
    (joinChildren f limit : Act ρ ε (Except FilamentError Unit)) = panicking (some untimedText) :=
  if_neg h

lemma joinChildren_eq (h : limit.Timed) {x : Filament} (hx : w.roster.filaments.get? f = some x) :
    joinChildren f limit w = (.ok (x.join limit), w) := by
  rw [joinChildren_timed h, seeFilament_eq hx]

end World

namespace Boundary

lemma settle_untimed (h : ¬ limit.Timed) (f : FilamentId) (i : Identity) (o : Outcome) :
    (settle f i limit o : Act ρ ε Outcome) = panicking (some untimedText) := by
  rw [settle, joinChildren_untimed h, panicking_bind]

/-- Nothing of a call comes after such a wait. -/
lemma attempt_settle_untimed (h : ¬ limit.Timed) (f : FilamentId) (i : Identity) (o : Outcome)
    (k : Outcome → Act ρ ε α) (w : World ρ ε) :
    (settle f i limit o >>= k).attempt w = (.ok (.error untimed), w.panicked) := by
  rw [settle_untimed h, panicking_bind]
  exact Flow.attempt_unwound (panicking_apply _ w)

end Boundary

end Testbench
