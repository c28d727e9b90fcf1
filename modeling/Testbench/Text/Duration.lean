/-!
# Durations

A duration is counted in nanoseconds and shown in the largest unit of which it holds at least one
whole, with the remainder behind a point and no trailing zeros: `60s`, `1.5µs`, `1.234567ms`, `0ns`.
The clock counts seconds in 63 bits, so that some durations are too long for it.
-/

namespace Testbench

/-- A span of time. -/
structure Duration where
  /-- Its length in nanoseconds. -/
  nanoseconds : Nat
deriving DecidableEq, Repr

namespace Duration

/-- A span of whole seconds. -/
def ofSeconds (n : Nat) : Duration := ⟨n * 1000000000⟩

/-- The last second of the clock. -/
def clockEnd : Nat := 0x7fffffffffffffff

/-- A wait of that length ends while the clock runs. How long the clock has been running when the
wait begins is left out. -/
def Timed (d : Duration) : Prop := d.nanoseconds < clockEnd * 1000000000

instance (d : Duration) : Decidable d.Timed := inferInstanceAs (Decidable (_ < _))

/-- The digits of `fraction` written with `places` places, less the zeros at the end. -/
def fractionDigits (places fraction : Nat) : List Char :=
  let digits := Nat.toDigits 10 fraction
  let padded := List.replicate (places - digits.length) '0' ++ digits
  (padded.reverse.dropWhile (· == '0')).reverse

/-- `count / 10 ^ places` of the unit called `unit`, as a decimal. -/
def decimal (count places : Nat) (unit : String) : String :=
  let scale := Nat.pow 10 places
  let whole := toString (count / scale)
  if count % scale = 0 then whole ++ unit
  else whole ++ "." ++ String.ofList (fractionDigits places (count % scale)) ++ unit

/-- The duration in its largest fitting unit. -/
def text (d : Duration) : String :=
  if 1000000000 ≤ d.nanoseconds then decimal d.nanoseconds 9 "s"
  else if 1000000 ≤ d.nanoseconds then decimal d.nanoseconds 6 "ms"
  else if 1000 ≤ d.nanoseconds then decimal d.nanoseconds 3 "µs"
  else decimal d.nanoseconds 0 "ns"

end Duration

end Testbench
