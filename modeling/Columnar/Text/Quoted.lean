import Columnar.Text.Visible

/-!
Texts in double quotes, as they stand inside the description of a type. Quotes, backslashes and
characters that are not visible are escaped; every other character stands for itself.
-/
namespace Columnar.Quoted

def hexEscape (c : Char) : List Char :=
  ['\\', 'u', '\x7b'] ++ Nat.toDigits 16 c.toNat ++ ['\x7d']

def escape (c : Char) : List Char :=
  if c = '\x22' then ['\\', '\x22']
  else if c = '\\' then ['\\', '\\']
  else if c = '\n' then ['\\', 'n']
  else if c = '\r' then ['\\', 'r']
  else if c = '\t' then ['\\', 't']
  else if c = '\x00' then ['\\', '0']
  else if Visible.isVisible c then [c]
  else hexEscape c

def quote (text : String) : String :=
  String.ofList (['\x22'] ++ text.toList.flatMap escape ++ ['\x22'])

end Columnar.Quoted
