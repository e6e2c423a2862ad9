import UserProvision.Text.Hex
import UserProvision.Text.Unprintable

/-!
# Quoted texts

A text between double quotes as it stands in messages. A quote and a backslash get a backslash, four
controls have a short form, and every other character without a shape of its own is written by its
number.
-/

namespace UserProvision.Quoted

def escape (c : Char) : List Char :=
  if c = '"' then ['\\', '"']
  else if c = '\\' then ['\\', '\\']
  else if c = '\n' then ['\\', 'n']
  else if c = '\r' then ['\\', 'r']
  else if c = '\t' then ['\\', 't']
  else if c = '\x00' then ['\\', '0']
  else if ' ' ≤ c ∧ c ≤ '~' then [c]
  else if Unprintable.contains c then
    '\\' :: 'u' :: '\x7b' :: (Hex.ofNat c.toNat).toList ++ ['\x7d']
  else [c]

/-- A text between quotes. -/
def quote (text : String) : String :=
  String.ofList ('"' :: text.toList.flatMap escape ++ ['"'])

end UserProvision.Quoted
