import PipelinesOperator.Text.Character
import PipelinesOperator.Text.Unprinted

/-!
# Quoted text

Error texts show a string between double quotes, the quote, the backslash and the
characters that print nothing escaped.
-/

namespace PipelinesOperator.Text

/-- One character as it stands between the quotes. -/
def escaped (c : Char) : List Char :=
  if c = '\x00' then ['\\', '0']
  else if c = '\t' then ['\\', 't']
  else if c = '\n' then ['\\', 'n']
  else if c = '\r' then ['\\', 'r']
  else if c = '"' then ['\\', '"']
  else if c = '\\' then ['\\', '\\']
  else if isUnprinted c then ['\\', 'u', '\x7b'] ++ (hex c.toNat).toList ++ ['\x7d']
  else [c]

/-- The text between double quotes. -/
def quoted (s : String) : String :=
  String.ofList ('"' :: s.toList.flatMap escaped ++ ['"'])

end PipelinesOperator.Text
