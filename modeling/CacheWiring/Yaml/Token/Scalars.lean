import CacheWiring.Yaml.Token

namespace CacheWiring.Yaml.Token

def escapeTable : List (Char × Char) :=
  [('0', '\x00'), ('a', '\x07'), ('b', '\x08'), ('t', '\t'), ('\t', '\t'), ('n', '\n'),
    ('v', '\x0b'), ('f', '\x0c'), ('r', '\r'), ('e', '\x1b'), (' ', ' '), ('"', '"'),
    ('\\', '\\'), ('/', '/'), ('N', '\x85'), ('_', '\xa0'), ('L', '\u2028'), ('P', '\u2029')]

def codeWidth? (mark : Char) : Option Nat :=
  [('x', 2), ('u', 4), ('U', 8)].lookup mark

def codePoint (n : Nat) : Except Fault CodePoint :=
  if Nat.pow 2 31 ≤ n then .error .codeTooLarge
  else if h : n < 0x110000 then .ok ⟨n, h⟩
  else .error .notCodePoint

/-- Line breaks inside quotes, with the blanks around them left out. A document marker may not stand
there. -/
def quotedBreaks : Nat → Cursor → Except Fault (List Char × Cursor)
  | 0, c => .ok ([], c)
  | fuel + 1, c => do
    if ← c.isAnyMarker then throw .notYaml
    let c ← c.skipWhile fun ch => ch == ' ' || ch == '\t'
    if isBreak c.head then
      let (first, c) ← c.lineBreak
      let (others, c) ← quotedBreaks fuel c
      return (first ++ others, c)
    else return ([], c)

/-- One break is a space; of more, or of a Unicode separator, all count but the first line feed. -/
def foldBreaks (first others : List Char) : List Char :=
  if first ≠ ['\n'] then first ++ others
  else if others.isEmpty then [' ']
  else others

def escape (c : Cursor) : Except Fault (Text × Cursor) := do
  let mark := c.head
  match escapeTable.lookup mark, codeWidth? mark with
  | some ch, _ => return ([.ofChar ch], ← c.next)
  | none, some width =>
    let digits ← (← c.next).hexDigits width
    let point ← codePoint ((Numeral.digitsValue? 16 digits).getD 0)
    return ([point], ← c.skip (width + 1))
  | none, none =>
    if isBreak mark then
      let (breaks, c) ← quotedBreaks (c.left + 1) (← c.lineBreak).2
      return (Text.ofChars breaks, c)
    else throw .notYaml

/-- Blanks inside quotes, which count only when no line break follows them. -/
def quotedBlanks (c : Cursor) : Except Fault (List Char × Cursor) := do
  let (blanks, c) ← c.span fun ch => ch == ' ' || ch == '\t'
  if c.head == endMark then throw .notYaml
  if isBreak c.head then
    let (first, c) ← c.lineBreak
    let (others, c) ← quotedBreaks (c.left + 1) c
    return (foldBreaks first others, c)
  else return (blanks, c)

/-- The text up to the closing quote after what was already read, the last of which is the first of
`done`, and the place after the quote. -/
def quotedText (double : Bool) : Nat → Text → Cursor → Except Fault (Text × Cursor)
  | 0, _, _ => .error .notYaml
  | fuel + 1, done, c => do
    let ch := c.head
    if isBlankOrEnd ch then
      let (part, c) ← quotedBlanks c
      quotedText double fuel ((Text.ofChars part).reverse ++ done) c
    else if double ∧ ch = '"' then return (done.reverse, ← c.next)
    else if double ∧ ch = '\\' then
      let (part, c) ← escape (← c.next)
      quotedText double fuel (part.reverse ++ done) c
    else
      let after ← c.next
      if !double ∧ ch = '\'' then
        if after.head = '\'' then quotedText double fuel (.ofChar ch :: done) (← after.next)
        else return (done.reverse, after)
      else quotedText double fuel (.ofChar ch :: done) after

def quotedToken (c : Cursor) : Except Fault (Token × Cursor) := do
  let (text, after) ← quotedText (c.head == '"') (c.left + 1) [] (← c.next)
  return (.scalar false text, after)

def followsColon (inFlow : Bool) (ch : Char) : Bool :=
  isBlankOrEnd ch || (inFlow && ",[]\x7b\x7d".toList.contains ch)

def endsPlain (inFlow : Bool) (c : Cursor) : Except Fault Bool := do
  let ch := c.head
  if isBlankOrEnd ch then return true
  else if ch == ':' then return followsColon inFlow (← c.peek 1)
  else return inFlow && ",?[]\x7b\x7d".toList.contains ch

/-- The characters of a plain scalar up to a place where it may end. -/
def plainRun (inFlow : Bool) : Nat → List Char → Cursor → Except Fault (List Char × Cursor)
  | 0, done, c => .ok (done.reverse, c)
  | fuel + 1, done, c => do
    if ← endsPlain inFlow c then return (done.reverse, c)
    else plainRun inFlow fuel (c.head :: done) (← c.next)

/-- Further line breaks after the first one, with the spaces between them left out; `none` when a
document marker stops them. -/
def plainBreaks : Nat → Cursor → Except Fault (Option (List Char) × Cursor)
  | 0, c => .ok (some [], c)
  | fuel + 1, c => do
    if c.head == ' ' then plainBreaks fuel (← c.next)
    else if isBreak c.head then
      let (first, c) ← c.lineBreak
      if ← c.isAnyMarker then return (none, c)
      let (others, c) ← plainBreaks fuel c
      return (others.map (first ++ ·), c)
    else return (some [], c)

/-- The separation after a run of a plain scalar, whether it went over a line end, and the place
after it. No separation means that the scalar is over. -/
def plainGap (c : Cursor) : Except Fault (List Char × Bool × Cursor) := do
  let (spaces, c) ← c.span (· == ' ')
  if isBreak c.head then
    let (first, c) ← c.lineBreak
    if ← c.isAnyMarker then return ([], true, c)
    match ← plainBreaks (c.left + 1) c with
    | (some others, c) => return (foldBreaks first others, true, c)
    | (none, c) => return ([], true, c)
  else return (spaces, false, c)

/-- The runs of a plain scalar and the gaps between them, after those already read, whether the
scalar went over a line end after its last run, and the place after it. Outside flow collections
the scalar goes on only in columns from `indent` on. -/
def plainRuns (inFlow : Bool) (indent : Nat) :
    Nat → List Char → List Char → Bool → Cursor → Except Fault (List Char × Bool × Cursor)
  | 0, done, _, atLine, c => .ok (done.reverse, atLine, c)
  | fuel + 1, done, gap, atLine, c => do
    if c.head == '#' then return (done.reverse, atLine, c)
    let (run, c) ← plainRun inFlow (c.left + 1) [] c
    if run.isEmpty then return (done.reverse, atLine, c)
    let done := run.reverse ++ (gap.reverse ++ done)
    let (next, overLine, c) ← plainGap c
    if next.isEmpty || c.head == '#' || (!inFlow && c.column < indent) then
      return (done.reverse, overLine, c)
    else plainRuns inFlow indent fuel done next overLine c

/-- A plain scalar, whether a line ended after it, and the place after it. -/
def plainToken (inFlow : Bool) (indent : Nat) (c : Cursor) :
    Except Fault (Token × Bool × Cursor) := do
  let (text, atLine, after) ← plainRuns inFlow indent (c.left + 1) [] [] false c
  return (.scalar true (Text.ofChars text), atLine, after)

/-- What becomes of the line breaks at the end of a block. -/
inductive Chomping where
  | strip
  | clip
  | keep
  deriving DecidableEq

def chomping? : Char → Option Chomping
  | '+' => some .keep
  | '-' => some .strip
  | _ => none

def increment (c : Cursor) : Except Fault (Option Nat × Cursor) := do
  if c.head.isDigit then
    if c.head = '0' then throw .notYaml else return (Text.digitValue? c.head, ← c.next)
  else return (none, c)

/-- The marks after the sign of a block scalar, in either order. -/
def blockHeader (c : Cursor) : Except Fault (Chomping × Option Nat × Cursor) := do
  let (chomping, width, c) ← match chomping? c.head with
    | some chomping => do
      let (width, c) ← increment (← c.next)
      pure (chomping, width, c)
    | none => do
      let (width, c) ← increment c
      match width, chomping? c.head with
      | some _, some chomping => pure (chomping, width, ← c.next)
      | _, _ => pure (Chomping.clip, width, c)
  if isSpaceOrEnd c.head then return (chomping, width, ← c.skipLineEnd) else throw .notYaml

/-- The line breaks before the first line of a block, and the largest column met among them. -/
def leadingBreaks : Nat → Nat → Cursor → Except Fault (List Char × Nat × Cursor)
  | 0, widest, c => .ok ([], widest, c)
  | fuel + 1, widest, c => do
    if c.head == ' ' then
      let c ← c.next
      leadingBreaks fuel (max widest c.column) c
    else if isBreak c.head then
      let (first, c) ← c.lineBreak
      let (others, widest, c) ← leadingBreaks fuel widest c
      return (first ++ others, widest, c)
    else return ([], widest, c)

/-- Past the indentation of a line, as far as it goes. -/
def skipIndent (indent : Nat) : Nat → Cursor → Except Fault Cursor
  | 0, c => .ok c
  | fuel + 1, c => do
    if c.column < indent && c.head == ' ' then skipIndent indent fuel (← c.next) else return c

def blockBreaks (indent : Nat) : Nat → Cursor → Except Fault (List Char × Cursor)
  | 0, c => .ok ([], c)
  | fuel + 1, c => do
    let c ← skipIndent indent indent c
    if isBreak c.head then
      let (first, c) ← c.lineBreak
      let (others, c) ← blockBreaks indent fuel c
      return (first ++ others, c)
    else return ([], c)

/-- Whether a line break between two lines of a folded block is folded. -/
def folds (folded : Bool) (lineBreak : List Char) (firstChar nextChar : Char) : Bool :=
  let isBlank (ch : Char) : Bool := ch == ' ' || ch == '\t'
  folded && lineBreak == ['\n'] && !isBlank firstChar && !isBlank nextChar

/-- The lines of a block from a place at its indentation, after those already read, the last line
break, and the breaks after it. -/
def blockLines (folded : Bool) (indent : Nat) :
    Nat → List Char → List Char → Cursor →
      Except Fault (List Char × List Char × List Char × Cursor)
  | 0, done, breaks, c => .ok (done.reverse, [], breaks, c)
  | fuel + 1, done, breaks, c => do
    if c.column ≠ indent || c.head == endMark then return (done.reverse, [], breaks, c)
    let firstChar := c.head
    let (line, c) ← c.span (!isBreakOrEnd ·)
    let (lineBreak, c) ← c.lineBreak
    let (after, c) ← blockBreaks indent (c.left + 1) c
    let done := line.reverse ++ (breaks.reverse ++ done)
    if c.column = indent && c.head != endMark then
      let joint :=
        if folds folded lineBreak firstChar c.head then (if after.isEmpty then [' '] else [])
        else lineBreak
      blockLines folded indent fuel (joint.reverse ++ done) after c
    else return (done.reverse, lineBreak, after, c)

/-- A block scalar inside a block of this indentation. -/
def blockToken (indent : Int) (c : Cursor) : Except Fault (Token × Cursor) := do
  let folded := c.head == '>'
  let (chomping, width, c) ← blockHeader (← c.next)
  let least := max (indent + 1) 1 |>.toNat
  let (column, breaks, c) ← match width with
    | some width => do
      let column := least + width - 1
      let (breaks, c) ← blockBreaks column (c.left + 1) c
      pure (column, breaks, c)
    | none => do
      let (breaks, widest, c) ← leadingBreaks (c.left + 1) 0 c
      pure (max least widest, breaks, c)
  let (lines, last, tail, c) ← blockLines folded column (c.left + 1) [] breaks c
  let text := lines ++ (if chomping = .strip then [] else last)
    ++ (if chomping = .keep then tail else [])
  return (.scalar false (Text.ofChars text), c)

end CacheWiring.Yaml.Token
