import CacheWiring.Text.Quoted

namespace CacheWiring.Json

def unitEscape (n : Nat) : List Char := ['\\', 'u'] ++ Text.hexadecimal 4 n

def escapedOne (c : CodePoint) : List Char :=
  let n := c.val
  if c = '"' ∨ c = '\\' then ['\\', c.toChar]
  else if c = '\n' then ['\\', 'n']
  else if c = '\r' then ['\\', 'r']
  else if c = '\t' then ['\\', 't']
  else if n = 0x08 then ['\\', 'b']
  else if n = 0x0c then ['\\', 'f']
  else if 0x20 ≤ n ∧ n < 0x7f then [c.toChar]
  else if n < 0x10000 then unitEscape n
  else unitEscape (0xD800 + (n - 0x10000) / 0x400) ++ unitEscape (0xDC00 + (n - 0x10000) % 0x400)

def writeString (t : Text) : String :=
  String.ofList ('"' :: t.flatMap escapedOne ++ ['"'])

end CacheWiring.Json
