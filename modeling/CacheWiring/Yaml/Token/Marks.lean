import CacheWiring.Yaml.Token

namespace CacheWiring.Yaml.Token

def name (c : Cursor) : Except Fault (String × Cursor) := do
  let (run, c) ← c.span isNameChar
  if run.isEmpty then throw .notYaml else return (String.ofList run, c)

def endsAnchor (c : Char) : Bool := isBlankOrEnd c || "?:,]\x7d%@\x60".toList.contains c

def anchorName (c : Cursor) : Except Fault (String × Cursor) := do
  let (name, c) ← name (← c.next)
  if endsAnchor c.head then return (name, c) else throw .notYaml

/-- A tag handle: an exclamation mark alone, or two with a name between them. -/
def tagHandle (c : Cursor) : Except Fault (String × Cursor) := do
  if c.head ≠ '!' then throw .notYaml
  let second ← c.next
  if second.head = ' ' then return ("!", second)
  let (run, after) ← second.span isNameChar
  if after.head = '!' then return (String.ofList ('!' :: run ++ ['!']), ← after.next)
  else throw .notYaml

def isUriChar (c : Char) : Bool := isNameChar c || ";/?:@&=+$,.!~*'()[]".toList.contains c

def escapedBytes : Nat → Cursor → Except Fault (List UInt8 × Cursor)
  | 0, c => .ok ([], c)
  | fuel + 1, c => do
    if c.head ≠ '%' then return ([], c)
    let digits ← (← c.next).hexDigits 2
    let (others, c) ← escapedBytes fuel (← c.skip 3)
    return (((Numeral.digitsValue? 16 digits).getD 0).toUInt8 :: others, c)

/-- The characters of a tag, percent escapes decoded as UTF-8. -/
def uriChars : Nat → Cursor → Except Fault (List Char × Cursor)
  | 0, c => .ok ([], c)
  | fuel + 1, c => do
    if isUriChar c.head then
      let (others, after) ← uriChars fuel (← c.next)
      return (c.head :: others, after)
    else if c.head = '%' then
      let (bytes, c) ← escapedBytes (c.left + 1) c
      match String.fromUTF8? ⟨bytes.toArray⟩ with
      | some text =>
        let (others, c) ← uriChars fuel c
        return (text.toList ++ others, c)
      | none => throw .notYaml
    else return ([], c)

def uri (c : Cursor) : Except Fault (String × Cursor) := do
  let after ← uriChars (c.left + 1) c
  if after.2.index = c.index then throw .notYaml else return (String.ofList after.1, after.2)

def hasSecondMark (c : Cursor) : Except Fault Bool := do
  let (_, after) ← c.span fun ch => !isSpaceOrEnd ch && ch != '!'
  return after.head == '!'

/-- A tag in angle brackets, the lone mark, or a handle with a suffix. -/
def tagToken (c : Cursor) : Except Fault (Token × Cursor) := do
  let second ← c.next
  let (token, after) ←
    if second.head = '<' then do
      let (suffix, c) ← uri (← second.next)
      if c.head = '>' then pure (Token.tag none suffix, ← c.next) else throw .notYaml
    else if isBlankOrEnd second.head then pure (Token.tag none "!", second)
    else if ← hasSecondMark second then do
      let (handle, c) ← tagHandle c
      let (suffix, c) ← uri c
      pure (Token.tag (some handle) suffix, c)
    else do
      let (suffix, c) ← uri second
      pure (Token.tag (some "!") suffix, c)
  if isSpaceOrEnd after.head then return (token, after) else throw .notYaml

def versionNumber (c : Cursor) : Except Fault (Nat × Cursor) := do
  let (digits, after) ← c.span Char.isDigit
  if digits.isEmpty then throw .notYaml
  let shown := Text.quoted (Text.ofChars digits)
  let n ← (Numeral.magnitude 10 digits).mapError (Fault.ofNumeral 10 shown)
  return (n, after)

def versionDirective (c : Cursor) : Except Fault (Directive × Cursor) := do
  let (major, c) ← versionNumber (← c.skipSpaces)
  if c.head ≠ '.' then throw .notYaml
  let (_, c) ← versionNumber (← c.next)
  if isSpaceOrEnd c.head then return (.version major, c) else throw .notYaml

def handleDirective (c : Cursor) : Except Fault (Directive × Cursor) := do
  let (handle, c) ← tagHandle (← c.skipSpaces)
  if c.head ≠ ' ' then throw .notYaml
  let (expansion, c) ← uri (← c.skipSpaces)
  if isSpaceOrEnd c.head then return (.tagHandle handle expansion, c) else throw .notYaml

/-- A directive; unknown ones are read to the end of the line and have no meaning. -/
def directiveToken (c : Cursor) : Except Fault (Token × Cursor) := do
  let (name, c) ← name (← c.next)
  if !isSpaceOrEnd c.head then throw .notYaml
  let (found, c) ←
    if name = "YAML" then versionDirective c
    else if name = "TAG" then handleDirective c
    else pure (Directive.other, ← c.skipWhile (!isBreakOrEnd ·))
  return (.directive found, ← c.skipLineEnd)

end CacheWiring.Yaml.Token
