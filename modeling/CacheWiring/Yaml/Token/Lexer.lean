import CacheWiring.Yaml.Token.Marks
import CacheWiring.Yaml.Token.Scalars

namespace CacheWiring.Yaml

/-- A token that may be the beginning of a key. A required one has to become a key. -/
structure PossibleKey where
  token : Nat
  required : Bool
  index : Nat
  line : Nat
  column : Nat

structure Lexer where
  cursor : Cursor
  tokens : Array Token
  flowLevel : Nat
  /-- The column of the current block, minus one outside all blocks. -/
  indent : Int
  outer : List Int
  keyAllowed : Bool
  keys : List (Nat × PossibleKey)

namespace Lexer

def start (source : Source) : Lexer := ⟨Cursor.start source, #[], 0, -1, [], true, []⟩

def inFlow (s : Lexer) : Bool := s.flowLevel != 0

def push (s : Lexer) (token : Token) : Lexer := { s with tokens := s.tokens.push token }

def take (s : Lexer) (token : Token) (length : Nat) : Except Fault Lexer := do
  return { s.push token with cursor := ← s.cursor.skip length }

def allowKey (s : Lexer) (allowed : Bool) : Lexer := { s with keyAllowed := allowed }

def isStale (s : Lexer) (k : PossibleKey) : Bool :=
  k.line != s.cursor.line || decide (1024 < s.cursor.index - k.index)

def dropStale (s : Lexer) : Except Fault Lexer :=
  let (stale, live) := s.keys.partition fun entry => s.isStale entry.2
  if stale.any fun entry => entry.2.required then .error .notYaml else .ok { s with keys := live }

def dropKey (s : Lexer) : Except Fault Lexer :=
  match s.keys.lookup s.flowLevel with
  | some k =>
    if k.required then .error .notYaml
    else .ok { s with keys := s.keys.filter fun entry => entry.1 != s.flowLevel }
  | none => .ok s

def saveKey (s : Lexer) : Except Fault Lexer := do
  if !s.keyAllowed then return s
  let s ← s.dropKey
  let c := s.cursor
  let required := !s.inFlow && s.indent == c.column
  let k : PossibleKey := ⟨s.tokens.size, required, c.index, c.line, c.column⟩
  return { s with keys := (s.flowLevel, k) :: s.keys }

/-- Closes the blocks that reach beyond a column. -/
def unwindTo (column : Int) (s : Lexer) : List Int → Lexer
  | [] => s
  | outer :: rest =>
    if s.indent ≤ column then s
    else unwindTo column { s.push .blockEnd with indent := outer, outer := rest } rest

def unwind (s : Lexer) (column : Int) : Lexer :=
  if s.inFlow then s else unwindTo column s s.outer

/-- Opens a block at a column beyond the current one, its token at the given place. -/
def openBlock (s : Lexer) (column place : Nat) (token : Token) : Lexer :=
  if s.indent < column then
    { s with
      indent := column, outer := s.indent :: s.outer,
      tokens := s.tokens.insertIdxIfInBounds place token }
  else s

/-- Past spaces, comments and line breaks, to the next token. -/
def toNextToken : Nat → Lexer → Except Fault Lexer
  | 0, s => .ok s
  | fuel + 1, s => do
    let c ← (← s.cursor.skipSpaces).skipComment
    if isBreak c.head then
      let (_, cursor) ← c.lineBreak
      toNextToken fuel { s with cursor, keyAllowed := s.keyAllowed || !s.inFlow }
    else return { s with cursor := c }

def skipByteOrderMark (s : Lexer) : Except Fault Lexer := do
  if s.cursor.index = 0 ∧ s.cursor.head = byteOrderMark then
    return { s with cursor := ← s.cursor.next }
  else return s

def streamEnd (s : Lexer) : Except Fault Lexer := do
  let s ← (s.unwind (-1)).dropKey
  return s.push .streamEnd

def directive (s : Lexer) : Except Fault Lexer := do
  let s ← (s.unwind (-1)).dropKey
  let (token, cursor) ← Token.directiveToken s.cursor
  return { (s.allowKey false).push token with cursor }

def documentMarker (s : Lexer) (token : Token) : Except Fault Lexer := do
  let s ← (s.unwind (-1)).dropKey
  (s.allowKey false).take token 3

def openFlow (s : Lexer) (token : Token) : Except Fault Lexer := do
  let s ← s.saveKey
  return { ← (s.allowKey true).take token 1 with flowLevel := s.flowLevel + 1 }

def closeFlow (s : Lexer) (token : Token) : Except Fault Lexer := do
  let s ← s.dropKey
  return { ← (s.allowKey false).take token 1 with flowLevel := s.flowLevel - 1 }

def flowEntry (s : Lexer) : Except Fault Lexer := do
  let s ← (s.allowKey true).dropKey
  s.take .flowEntry 1

/-- In a block, an entry or a key stands only where a key could. -/
def blockItem (s : Lexer) (opening : Token) : Except Fault Lexer :=
  if s.inFlow then .ok s
  else if !s.keyAllowed then .error .notYaml
  else .ok (s.openBlock s.cursor.column s.tokens.size opening)

def blockEntry (s : Lexer) : Except Fault Lexer := do
  let s ← s.blockItem .blockSequenceStart
  let s ← (s.allowKey true).dropKey
  s.take .blockEntry 1

def explicitKey (s : Lexer) : Except Fault Lexer := do
  let s ← s.blockItem .blockMappingStart
  let s ← (s.allowKey !s.inFlow).dropKey
  s.take .key 1

/-- The colon after a key. The key token goes to the place of the remembered token, and the block it
opens before that. -/
def keyValue (s : Lexer) : Except Fault Lexer := do
  match s.keys.lookup s.flowLevel with
  | some k =>
    let s := { s with
      keys := s.keys.filter fun entry => entry.1 != s.flowLevel,
      tokens := s.tokens.insertIdxIfInBounds k.token .key }
    let s := if s.inFlow then s else s.openBlock k.column k.token .blockMappingStart
    (s.allowKey false).take .value 1
  | none =>
    let s ← s.blockItem .blockMappingStart
    let s ← (s.allowKey !s.inFlow).dropKey
    s.take .value 1

def anchorOrAlias (s : Lexer) (token : String → Token) : Except Fault Lexer := do
  let s ← s.saveKey
  let (name, cursor) ← Token.anchorName s.cursor
  return { (s.allowKey false).push (token name) with cursor }

def tag (s : Lexer) : Except Fault Lexer := do
  let s ← s.saveKey
  let (token, cursor) ← Token.tagToken s.cursor
  return { (s.allowKey false).push token with cursor }

def blockScalar (s : Lexer) : Except Fault Lexer := do
  let s ← (s.allowKey true).dropKey
  let (token, cursor) ← Token.blockToken s.indent s.cursor
  return { s.push token with cursor }

def quoted (s : Lexer) : Except Fault Lexer := do
  let s ← s.saveKey
  let (token, cursor) ← Token.quotedToken s.cursor
  return { (s.allowKey false).push token with cursor }

def plain (s : Lexer) : Except Fault Lexer := do
  let s ← s.saveKey
  let (token, atLine, cursor) ← Token.plainToken s.inFlow (s.indent + 1).toNat s.cursor
  return { (s.allowKey atLine).push token with cursor }

/-- Characters with which a plain scalar does not begin unless they are part of a word. -/
def startsPlain (s : Lexer) : Except Fault Bool := do
  let ch := s.cursor.head
  if !(isBlankOrEnd ch || "-?:,[]\x7b\x7d#&*!|>'\"%@\x60".toList.contains ch) then return true
  let follows ← s.cursor.peek 1
  return !isBlankOrEnd follows && (ch == '-' || (!s.inFlow && (ch == '?' || ch == ':')))

/-- Whether a sign stands here that means something only before a blank, or anywhere in a flow
collection if `flow` says so. -/
def isSign (s : Lexer) (sign : Char) (flow : Bool) : Except Fault Bool := do
  if s.cursor.head != sign then return false
  else if flow && s.inFlow then return true
  else return isBlankOrEnd (← s.cursor.peek 1)

/-- Whether a document marker stands at the beginning of a line here. -/
def isDocumentMarker (s : Lexer) (mark : Char) : Except Fault Bool :=
  if s.cursor.column = 0 ∧ s.cursor.head = mark then s.cursor.isMarker mark else .ok false

def token (s : Lexer) : Except Fault Lexer := do
  match s.cursor.head with
  | '[' => s.openFlow .flowSequenceStart
  | '\x7b' => s.openFlow .flowMappingStart
  | ']' => s.closeFlow .flowSequenceEnd
  | '\x7d' => s.closeFlow .flowMappingEnd
  | ',' => s.flowEntry
  | '*' => s.anchorOrAlias .alias
  | '&' => s.anchorOrAlias .anchor
  | '!' => s.tag
  | '\'' | '"' => s.quoted
  | ch =>
    if ch = '%' ∧ s.cursor.column = 0 then s.directive
    else if ← s.isDocumentMarker '-' then s.documentMarker .documentStart
    else if ← s.isDocumentMarker '.' then s.documentMarker .documentEnd
    else if ← s.isSign '-' false then s.blockEntry
    else if ← s.isSign '?' true then s.explicitKey
    else if ← s.isSign ':' true then s.keyValue
    else if (ch = '|' ∨ ch = '>') ∧ !s.inFlow then s.blockScalar
    else if ← s.startsPlain then s.plain
    else throw .notYaml

def next (s : Lexer) : Except Fault Lexer := do
  let s ← (← s.dropStale).skipByteOrderMark
  let s ← (← toNextToken (s.cursor.left + 1) s).dropStale
  let s := s.unwind s.cursor.column
  if s.cursor.rest.isEmpty then s.streamEnd else s.token

def isEnded (s : Lexer) : Bool :=
  match s.tokens.back? with
  | some .streamEnd => true
  | _ => false

/-- How many tokens are certain: none can come before or between them any more. -/
def certain (s : Lexer) : Nat :=
  (s.keys.filter fun entry => !s.isStale entry.2).foldl (fun count entry =>
    min count entry.2.token) s.tokens.size

/-- The certain tokens, and a fault in place of all others. -/
def brokenBy (s : Lexer) (fault : Fault) : Array Token :=
  (s.tokens.take s.certain).push (.broken fault)

/-- Reads tokens to the end of the text; every one but the last takes a character or more. -/
def readAll : Nat → Lexer → Array Token
  | 0, s => s.brokenBy .notYaml
  | fuel + 1, s =>
    match s.next with
    | .error fault => s.brokenBy fault
    | .ok s => if s.isEnded then s.tokens else readAll fuel s

end Lexer

/-- The tokens of a text. When not even its first piece is good, it is broken from the start. -/
def Token.ofSource (source : Source) : List Token :=
  match source.chars, source.behind with
  | [], some fault => [.broken fault]
  | chars, _ => (Lexer.readAll (chars.length + 1) (Lexer.start source)).toList

end CacheWiring.Yaml
