/-!
# Writing strings

A string is written between double quotes, with quotes, backslashes and control characters escaped
and all other characters as they are.
-/

namespace EngineExtension.Json

/-- A hexadecimal digit. -/
def hexDigit (n : Nat) : Char := (Nat.digitChar n)

/-- A character as it is written in a string. -/
def escapeChar (c : Char) : List Char :=
  if c = '"' then ['\\', '"']
  else if c = '\\' then ['\\', '\\']
  else if c = '\x08' then ['\\', 'b']
  else if c = '\t' then ['\\', 't']
  else if c = '\n' then ['\\', 'n']
  else if c = '\x0c' then ['\\', 'f']
  else if c = '\r' then ['\\', 'r']
  else if c.toNat < 0x20 then
    ['\\', 'u', '0', '0', hexDigit (c.toNat / 16), hexDigit (c.toNat % 16)]
  else [c]

/-- A string between quotes. -/
def quote (s : String) : List Char := '"' :: s.toList.flatMap escapeChar ++ ['"']

end EngineExtension.Json
