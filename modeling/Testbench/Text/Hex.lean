/-!
# Hexadecimal numerals

Addresses, codes and sizes are shown in hexadecimal: `hex` writes the shortest numeral behind
`0x`, `hexPadded` writes the bare capital digits of a fixed width.
-/

namespace Testbench.Text

/-- The digits of `n` in base sixteen, most significant first. -/
def hexDigits (n : Nat) : List Char := Nat.toDigits 16 n

/-- `0x` and the lower-case digits of `n`, without leading zeros. -/
def hex (n : Nat) : String := "0x" ++ String.ofList (hexDigits n)

/-- The capital digits of `n`, filled up with zeros to `width` digits. -/
def hexPadded (width n : Nat) : String :=
  let digits := (hexDigits n).map Char.toUpper
  String.ofList (List.replicate (width - digits.length) '0' ++ digits)

end Testbench.Text
