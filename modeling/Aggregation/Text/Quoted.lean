/-
**Quoted names in messages.**

A name inside a message stands between double quotes. Quotes and backslashes are escaped, the
common controls by a letter, and every other character without a visible form by its number in
lower-case hexadecimal.
-/

import Aggregation.Text.Digits
import Aggregation.Text.Unprintable

namespace Aggregation.Text

/-- A character inside a quoted name. -/
def quoteChar (c : Char) : List Char :=
  if c = '"' then ['\\', '"']
  else if c = '\\' then ['\\', '\\']
  else if c = '\n' then ['\\', 'n']
  else if c = '\r' then ['\\', 'r']
  else if c = '\t' then ['\\', 't']
  else if c.toNat = 0 then ['\\', '0']
  else if isUnprintable c then '\\' :: 'u' :: '\x7b' :: hexDigits c.toNat ++ ['\x7d']
  else [c]

/-- A name between double quotes. -/
def quoted (name : String) : String :=
  String.ofList ('"' :: name.toList.flatMap quoteChar ++ ['"'])

end Aggregation.Text
