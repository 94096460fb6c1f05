namespace CacheWiring

abbrev CodePoint := Fin 0x110000

abbrev Text := List CodePoint

namespace CodePoint

def ofChar (c : Char) : CodePoint :=
  ⟨c.toNat, by
    have valid := c.valid
    simp only [UInt32.isValidChar, Nat.isValidChar] at valid
    have : c.toNat = c.val.toNat := rfl
    omega⟩

instance : Coe Char CodePoint := ⟨ofChar⟩

def ofNat (n : Nat) : CodePoint := Fin.ofNat 0x110000 n

def isHalf (c : CodePoint) : Bool := 0xD800 ≤ c.val && c.val ≤ 0xDFFF

/-- The character of a code point, for a half the replacement character. -/
def toChar (c : CodePoint) : Char := if c.isHalf then '\uFFFD' else Char.ofNat c.val

end CodePoint

namespace Text

def ofChars (cs : List Char) : Text := cs.map CodePoint.ofChar

def ofString (s : String) : Text := ofChars s.toList

instance : Coe String Text := ⟨ofString⟩

def chars (t : Text) : List Char := t.map CodePoint.toChar

/-- A text as a string can hold it. -/
def displayed (t : Text) : String := String.ofList t.chars

def joined (separator : Text) (texts : List Text) : Text := List.intercalate separator texts

end Text

end CacheWiring
