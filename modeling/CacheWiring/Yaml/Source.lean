import CacheWiring.Text.File

namespace CacheWiring.Yaml

def isAllowed (c : Char) : Bool :=
  let n := c.toNat
  n == 0x09 || n == 0x0a || n == 0x0d || (0x20 ≤ n && n ≤ 0x7e) || n == 0x85 ||
    (0xa0 ≤ n && n ≤ 0xfffd) || 0x10000 ≤ n

/-- Good characters, and what reading on meets: a fault, or else the end of the text. -/
structure Source where
  chars : List Char
  behind : Option Fault

namespace Source

/-- Where the piece with the character at a place begins. The first piece is twice as long as the
others. -/
def pieceStart (place : Nat) : Nat :=
  if place < 2 * Text.pieceSize then 0 else place / Text.pieceSize * Text.pieceSize

/-- Characters of which the one at a place cannot be read. -/
def spoiled (chars : List Char) (place : Nat) (fault : Fault) : Source :=
  ⟨chars.take (pieceStart place), some fault⟩

def ofDecoded (d : Text.Decoded) : Source :=
  let readable : Source :=
    if d.complete then ⟨d.chars, none⟩ else spoiled d.chars d.chars.length .undecodable
  match readable.chars.findIdx? (!isAllowed ·) with
  | some place => spoiled readable.chars place .notYaml
  | none => readable

end Source

end CacheWiring.Yaml
