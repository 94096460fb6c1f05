import CacheWiring.Text.Printable

namespace CacheWiring.Text

def hexadecimal (width n : Nat) : List Char :=
  let digits := Nat.toDigits 16 n
  List.replicate (width - digits.length) '0' ++ digits

/-- The escape by code point, with two, four or eight digits. -/
def codePointEscape (n : Nat) : List Char :=
  if n < 0x100 then ['\\', 'x'] ++ hexadecimal 2 n
  else if n < 0x10000 then ['\\', 'u'] ++ hexadecimal 4 n
  else ['\\', 'U'] ++ hexadecimal 8 n

def quotedOne (quote c : CodePoint) : Text :=
  if c = '\\' ∨ c = quote then ['\\', c]
  else if c = '\n' then "\\n"
  else if c = '\r' then "\\r"
  else if c = '\t' then "\\t"
  else if isPrintable c then [c]
  else ofChars (codePointEscape c.val)

/-- The quote that needs fewer escapes, the single one when neither does. -/
def quoteFor (t : Text) : CodePoint := if t.contains '\'' && !t.contains '"' then '"' else '\''

def quoted (t : Text) : Text :=
  let quote := quoteFor t
  quote :: t.flatMap (quotedOne quote) ++ [quote]

/-- Bytes are quoted like text, all but the visible ASCII characters by code. -/
def quotedByte (quote : CodePoint) (byte : UInt8) : Text :=
  if byte < 0x7f then quotedOne quote (.ofNat byte.toNat)
  else ofChars (['\\', 'x'] ++ hexadecimal 2 byte.toNat)

def quotedBytes (bytes : List UInt8) : Text :=
  let quote := quoteFor (bytes.map fun byte => .ofNat byte.toNat)
  "b" ++ [quote] ++ bytes.flatMap (quotedByte quote) ++ [quote]

end CacheWiring.Text
