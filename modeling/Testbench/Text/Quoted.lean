import Testbench.Text.Hex
import Testbench.Text.Unprintable

/-!
# Quoted text

A text is shown between double quotes. The quote and the backslash are escaped by a backslash, the
commonest controls by a letter, and every other character that cannot be shown by its code point.
-/

namespace Testbench.Text

/-- A character as it stands between quotes. -/
def escaped (c : Char) : List Char :=
  if c = '\x00' then ['\\', '0']
  else if c = '\t' then ['\\', 't']
  else if c = '\n' then ['\\', 'n']
  else if c = '\r' then ['\\', 'r']
  else if c = '"' then ['\\', '"']
  else if c = '\\' then ['\\', '\\']
  else if isUnprintable c.toNat then ['\\', 'u', '{'] ++ hexDigits c.toNat ++ ['}']
  else [c]

/-- A text between quotes. -/
def quoted (s : String) : String :=
  String.ofList ('"' :: s.toList.flatMap escaped ++ ['"'])

end Testbench.Text
