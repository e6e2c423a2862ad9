import UserProvision.Text.Hex

/-!
# Strings, lists and objects of a JSON text

Texts are compact. A string escapes quotes, backslashes and the controls below the space, and
nothing else.
-/

namespace UserProvision.Json

def escape (c : Char) : List Char :=
  if c = '"' then ['\\', '"']
  else if c = '\\' then ['\\', '\\']
  else if c = '\x08' then ['\\', 'b']
  else if c = '\x0c' then ['\\', 'f']
  else if c = '\n' then ['\\', 'n']
  else if c = '\r' then ['\\', 'r']
  else if c = '\t' then ['\\', 't']
  else if c < ' ' then ['\\', 'u', '0', '0'] ++ Hex.encodeByte (UInt8.ofNat c.toNat)
  else [c]

def string (text : String) : String :=
  String.ofList ('"' :: text.toList.flatMap escape ++ ['"'])

/-- An object from the texts of its values, in the given order. -/
def object (members : List (String × String)) : String :=
  "\x7b" ++ String.intercalate "," (members.map fun (key, value) => string key ++ ":" ++ value)
    ++ "\x7d"

def array (items : List String) : String := "[" ++ String.intercalate "," items ++ "]"

end UserProvision.Json
