import CacheWiring.Program.Basic

namespace CacheWiring.Text

def unifyLineEnds : List Char → List Char
  | [] => []
  | '\r' :: '\n' :: rest => '\n' :: unifyLineEnds rest
  | c :: rest => (if c = '\r' then '\n' else c) :: unifyLineEnds rest

/-- The bounds of the bytes that have to follow the first byte of a character; none for a byte that
begins no character. -/
def following? (first : UInt8) : Option (List (UInt8 × UInt8)) :=
  let any : UInt8 × UInt8 := (0x80, 0xbf)
  if first < 0x80 then some []
  else if first < 0xc2 then none
  else if first < 0xe0 then some [any]
  else if first = 0xe0 then some [(0xa0, 0xbf), any]
  else if first = 0xed then some [(0x80, 0x9f), any]
  else if first < 0xf0 then some [any, any]
  else if first = 0xf0 then some [(0x90, 0xbf), any, any]
  else if first < 0xf4 then some [any, any, any]
  else if first = 0xf4 then some [(0x80, 0x8f), any, any]
  else none

/-- The place of the first byte that is part of no character, counted from `place` on, when bytes
within some bounds are expected first. A character that breaks off has it at the end. -/
def faultPlace? (place : Nat) : List (UInt8 × UInt8) → List UInt8 → Option Nat
  | [], [] => none
  | _ :: _, [] => some place
  | [], byte :: rest =>
    match following? byte with
    | some bounds => faultPlace? (place + 1) bounds rest
    | none => some place
  | (least, most) :: bounds, byte :: rest =>
    if least ≤ byte ∧ byte ≤ most then faultPlace? (place + 1) bounds rest else some place

/-- The characters that the first bytes hold. One that breaks off at their end is left out, and so
is a carriage return there, which waits for a line feed. -/
def charsIn (bytes : ByteArray) (count : Nat) : List Char :=
  let text? (missing : Nat) : Option String := String.fromUTF8? (bytes.extract 0 (count - missing))
  let cs := (([0, 1, 2, 3].findSome? text?).getD "").toList
  unifyLineEnds (if cs.getLast? = some '\r' then cs.dropLast else cs)

/-- How many characters are asked for at a time. -/
def pieceSize : Nat := 4096

/-- How many bytes a block has: 8192, or as many as the characters missing from a piece take, if
they are more. The block before shows how many bytes some characters take. -/
def blockSize (missing bytesBefore charsBefore : Nat) : Nat :=
  max 8192 (missing * bytesBefore / charsBefore)

/-- Where the block with the byte at a place begins, when `chars` characters were in the blocks up
to `start`, and some of these bytes and characters in the last of them. -/
def blockStart (bytes : ByteArray) (place start chars lastBytes lastChars : Nat) : Nat :=
  let size := blockSize (pieceSize - chars % pieceSize) lastBytes lastChars
  if place < start + size then start
  else
    let count := (charsIn bytes (start + size)).length
    blockStart bytes place (start + size) count size (count - chars)
termination_by place - start
decreasing_by
  have : 8192 ≤ size := Nat.le_max_left ..
  omega

/-- The characters of a file up to the block with the first fault in it. -/
structure Decoded where
  chars : List Char
  /-- The file ends after these characters. -/
  complete : Bool

def decode (bytes : ByteArray) : Decoded :=
  match String.fromUTF8? bytes with
  | some text => ⟨unifyLineEnds text.toList, true⟩
  | none =>
    let place := (faultPlace? 0 [] bytes.toList).getD 0
    ⟨charsIn bytes (if place = bytes.size then place else blockStart bytes place 0 0 0 0), false⟩

def fileExists (path : Text) : Program Bool := Program.request (.pathExists path)

def readPartly (path : Text) : Program Decoded := do
  let bytes : ByteArray ← Program.request (.fileBytes path)
  return decode bytes

def readText (path : Text) : Program String := do
  let decoded ← readPartly path
  if decoded.complete then return String.ofList decoded.chars else Program.fail .undecodable

end CacheWiring.Text
