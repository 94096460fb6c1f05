import CacheWiring.Yaml.Node
import CacheWiring.Yaml.Token

namespace CacheWiring.Yaml

structure Reading where
  tokens : List Token
  nodes : Nodes
  anchors : List (String × Nat)

abbrev Reader := StateT Reading (Except Fault)

namespace Reader

/-- Tag handles and what they stand for. -/
abbrev Handles := List (String × String)

def defaultHandles : Handles := [("!", "!"), ("!!", Tag.commonPrefix)]

inductive Form where
  | flowSequence
  | flowMapping
  | blockSequence
  | blockMapping

/-- How deep collections may nest, the last of them being of this form. -/
def Form.deepest : Form → Nat
  | .flowSequence => 490
  | .flowMapping => 489
  | .blockSequence => 488
  | .blockMapping => 487

/-- Where a node stands. Block collections stand only in a block, and a block sequence without
indentation of its own only as a key or value of a block mapping. -/
structure Surroundings where
  /-- How many collections are around the node. -/
  depth : Nat
  /-- The innermost of them is a mapping. -/
  inMapping : Bool
  block : Bool
  indentless : Bool

namespace Surroundings

def outermost : Surroundings := ⟨0, false, true, false⟩

def flowItem (depth : Nat) : Surroundings := ⟨depth, false, false, false⟩

def flowEntry (depth : Nat) : Surroundings := ⟨depth, true, false, false⟩

def blockItem (depth : Nat) : Surroundings := ⟨depth, false, true, false⟩

def blockEntry (depth : Nat) : Surroundings := ⟨depth, true, true, true⟩

/-- The fault of one collection too many. Only a mapping in a mapping is told apart, and only when
its first key is a plain scalar. -/
def tooDeep (around : Surroundings) (form : Form) (rest : List Token) : Fault :=
  match form, rest with
  | .flowMapping, .key :: .scalar true _ :: _ | .blockMapping, .key :: .scalar true _ :: _ =>
    .tooDeep (if around.inMapping then .mapping else .collection)
  | _, _ => .tooDeep .collection

/-- The depth inside a collection of some form, whose tokens these are. -/
def deeper (around : Surroundings) (form : Form) (rest : List Token) : Except Fault Nat :=
  if around.depth < form.deepest then .ok (around.depth + 1) else .error (around.tooDeep form rest)

end Surroundings

def tokens : Reader (List Token) := fun s => .ok (s.tokens, s)

def goOn (rest : List Token) : Reader Unit := fun s => .ok ((), { s with tokens := rest })

def unexpected {α : Type} : Reader α := fun s =>
  match s.tokens with
  | .broken fault :: _ => .error fault
  | _ => .error .notYaml

/-- What is written before a node: an anchor and a tag, each at most once. -/
structure Properties where
  anchor : Option String
  tag : Option String

def tagName (handles : Handles) : Option String → String → Except Fault String
  | none, suffix => .ok suffix
  | some handle, suffix =>
    match handles.lookup handle with
    | some expansion => .ok (expansion ++ suffix)
    | none => .error .notYaml

/-- A tag counts only when it is certain that no broken text follows it directly. -/
def properties (handles : Handles) : Reader Properties := do
  let tagged (anchor : Option String) (handle : Option String) (suffix : String)
      (rest : List Token) : Reader Properties := do
    let tag ← tagName handles handle suffix
    goOn rest
    return ⟨anchor, some tag⟩
  match ← tokens with
  | .anchor anchor :: .tag handle suffix :: rest => tagged (some anchor) handle suffix rest
  | .tag handle suffix :: .anchor anchor :: rest => tagged (some anchor) handle suffix rest
  | .tag _ _ :: .broken fault :: _ => throw fault
  | .tag handle suffix :: rest => tagged none handle suffix rest
  | .anchor anchor :: rest =>
    goOn rest
    return ⟨some anchor, none⟩
  | _ => return ⟨none, none⟩

/-- The lone exclamation mark says no more than no tag at all. -/
def Properties.given? (p : Properties) : Option Tag :=
  match p.tag with
  | some "!" => none
  | other => other.map Tag.ofName

def Properties.isEmpty (p : Properties) : Bool := p.anchor.isNone && p.tag.isNone

def Properties.scalar (p : Properties) (plain : Bool) (text : Text) : Node :=
  let shown := if plain || p.tag == some "!" then Tag.ofPlain text else .str
  ⟨p.given?.getD shown, .scalar text⟩

/-- Keeps a node, under its anchor when it has one. -/
def keep (anchor : Option String) (node : Node) : Reader Nat := fun s =>
  let place := s.nodes.size
  let anchors := match anchor with
    | some name => (name, place) :: s.anchors
    | none => s.anchors
  .ok (place, { s with nodes := s.nodes.push node, anchors })

def nothing : Reader Nat := keep none .nothing

def target (name : String) : Reader Nat := fun s =>
  match s.anchors.lookup name with
  | some place => .ok (place, s)
  | none => .error .notYaml

/-- Broken text is found out before a repeated anchor is. -/
def checkAnchor (anchor : Option String) : Reader Unit := fun s =>
  match s.tokens, anchor with
  | .broken fault :: _, _ => .error fault
  | _, some name => if (s.anchors.lookup name).isSome then .error .notYaml else .ok ((), s)
  | _, none => .ok ((), s)

/-- Keeps a collection, whose anchor counts inside it already. -/
def collection {α : Type} (p : Properties) (kind : Tag) (content : α → Content)
    (inside : Reader α) : Reader Nat := do
  let place ← keep p.anchor ⟨p.given?.getD kind, .sequence []⟩
  let found ← inside
  modify fun s => { s with nodes := s.nodes.setContent (content found) place }
  return place

/-- Whether a token ends an entry of a block before anything stands in it. -/
def endsBlockEntry : List Token → Bool
  | .key :: _ | .value :: _ | .blockEnd :: _ => true
  | _ => false

def endsBlockItem : List Token → Bool
  | .blockEntry :: _ | .blockEnd :: _ => true
  | _ => false

def endsIndentlessItem (tokens : List Token) : Bool := endsBlockItem tokens || endsBlockEntry tokens

def endsFlowValue : List Token → Bool
  | .flowEntry :: _ | .flowSequenceEnd :: _ | .flowMappingEnd :: _ => true
  | _ => false

def endsFlowKey : List Token → Bool
  | .value :: _ => true
  | tokens => endsFlowValue tokens

/-- A node, or nothing where the tokens show that there is none. -/
def orNothing (ends : List Token → Bool) (node : Reader Nat) : Reader Nat := do
  if ends (← tokens) then nothing else node

/-- The value after its mark, nothing where there is no mark. -/
def valueOrNothing (ends : List Token → Bool) (node : Reader Nat) : Reader Nat := do
  match ← tokens with
  | .value :: rest =>
    goOn rest
    orNothing ends node
  | _ => nothing

/-- Past the comma that separates entries of a flow collection; none stands before the first. -/
def comma (first : Bool) : Reader Unit := do
  if first then return
  match ← tokens with
  | .flowEntry :: rest => goOn rest
  | _ => unexpected

mutual

def node (handles : Handles) : Nat → Surroundings → Reader Nat
  | 0, _ => unexpected
  | fuel + 1, around => do
    match ← tokens with
    | .alias name :: rest =>
      goOn rest
      target name
    | _ =>
      let p ← properties handles
      checkAnchor p.anchor
      let inside {α : Type} (form : Form) (kind : Tag) (content : α → Content) (rest : List Token)
          (read : Nat → Reader α) : Reader Nat := do
        goOn rest
        collection p kind content (read (← around.deeper form rest))
      match ← tokens, around.block, around.indentless with
      | .blockEntry :: rest, _, true =>
        inside .blockSequence .seq .sequence (.blockEntry :: rest)
          (indentlessItems handles fuel · [])
      | .scalar plain text :: rest, _, _ =>
        goOn rest
        keep p.anchor (p.scalar plain text)
      | .flowSequenceStart :: rest, _, _ =>
        inside .flowSequence .seq .sequence rest (flowItems handles fuel · true [])
      | .flowMappingStart :: rest, _, _ =>
        inside .flowMapping .map .mapping rest (flowEntries handles fuel · true [])
      | .blockSequenceStart :: rest, true, _ =>
        inside .blockSequence .seq .sequence rest (blockItems handles fuel · [])
      | .blockMappingStart :: rest, true, _ =>
        inside .blockMapping .map .mapping rest (blockEntries handles fuel · [])
      | _, _, _ => if p.isEmpty then unexpected else keep p.anchor (p.scalar p.tag.isNone "")

/-- The items of a block sequence after those already read, the last of which is the first of
`done`. -/
def blockItems (handles : Handles) : Nat → Nat → List Nat → Reader (List Nat)
  | 0, _, _ => unexpected
  | fuel + 1, depth, done => do
    match ← tokens with
    | .blockEntry :: rest =>
      goOn rest
      let item ← orNothing endsBlockItem (node handles fuel (.blockItem depth))
      blockItems handles fuel depth (item :: done)
    | .blockEnd :: rest =>
      goOn rest
      return done.reverse
    | _ => unexpected

def indentlessItems (handles : Handles) : Nat → Nat → List Nat → Reader (List Nat)
  | 0, _, _ => unexpected
  | fuel + 1, depth, done => do
    match ← tokens with
    | .blockEntry :: rest =>
      goOn rest
      let item ← orNothing endsIndentlessItem (node handles fuel (.blockItem depth))
      indentlessItems handles fuel depth (item :: done)
    | _ => return done.reverse

def blockEntries (handles : Handles) :
    Nat → Nat → List (Nat × Nat) → Reader (List (Nat × Nat))
  | 0, _, _ => unexpected
  | fuel + 1, depth, done => do
    match ← tokens with
    | .key :: rest =>
      goOn rest
      let key ← orNothing endsBlockEntry (node handles fuel (.blockEntry depth))
      let value ← valueOrNothing endsBlockEntry (node handles fuel (.blockEntry depth))
      blockEntries handles fuel depth ((key, value) :: done)
    | .blockEnd :: rest =>
      goOn rest
      return done.reverse
    | _ => unexpected

def flowPair (handles : Handles) : Nat → Nat → Reader (Nat × Nat)
  | 0, _ => unexpected
  | fuel + 1, depth => do
    let key ← orNothing endsFlowKey (node handles fuel (.flowEntry depth))
    let value ← valueOrNothing endsFlowValue (node handles fuel (.flowEntry depth))
    return (key, value)

/-- The items of a flow sequence; a key and a value among them make a mapping of one entry. -/
def flowItems (handles : Handles) : Nat → Nat → Bool → List Nat → Reader (List Nat)
  | 0, _, _, _ => unexpected
  | fuel + 1, depth, first, done => do
    match ← tokens with
    | .flowSequenceEnd :: rest =>
      goOn rest
      return done.reverse
    | _ =>
      comma first
      match ← tokens with
      | .flowSequenceEnd :: rest =>
        goOn rest
        return done.reverse
      | .key :: rest =>
        goOn rest
        let inner ← (Surroundings.flowItem depth).deeper .flowMapping rest
        let item ←
          collection ⟨none, none⟩ .map (fun entry => .mapping [entry]) (flowPair handles fuel inner)
        flowItems handles fuel depth false (item :: done)
      | _ =>
        let item ← node handles fuel (.flowItem depth)
        flowItems handles fuel depth false (item :: done)

/-- The entries of a flow mapping; a node without a colon is a key without a value. -/
def flowEntries (handles : Handles) :
    Nat → Nat → Bool → List (Nat × Nat) → Reader (List (Nat × Nat))
  | 0, _, _, _ => unexpected
  | fuel + 1, depth, first, done => do
    match ← tokens with
    | .flowMappingEnd :: rest =>
      goOn rest
      return done.reverse
    | _ =>
      comma first
      match ← tokens with
      | .flowMappingEnd :: rest =>
        goOn rest
        return done.reverse
      | .key :: rest =>
        goOn rest
        let entry ← flowPair handles fuel depth
        flowEntries handles fuel depth false (entry :: done)
      | _ =>
        let key ← node handles fuel (.flowEntry depth)
        let value ← nothing
        flowEntries handles fuel depth false ((key, value) :: done)

end

/-- The directives before a document: one version at most, of the first generation, and each tag
handle once. -/
def directives : List Token → Bool → Handles → Except Fault (Handles × List Token)
  | .directive (.version major) :: rest, seen, handles =>
    if seen ∨ major ≠ 1 then .error .notYaml else directives rest true handles
  | .directive (.tagHandle handle expansion) :: rest, seen, handles =>
    if (handles.lookup handle).isSome then .error .notYaml
    else directives rest seen ((handle, expansion) :: handles)
  | .directive .other :: rest, seen, handles => directives rest seen handles
  | rest, _, handles => .ok (handles ++ defaultHandles, rest)

def endsDocument : List Token → Bool
  | .directive _ :: _ | .documentStart :: _ | .documentEnd :: _ | .streamEnd :: _ => true
  | _ => false

def explicitStart : Reader Handles := do
  let (handles, rest) ← directives (← tokens) false []
  goOn rest
  match rest with
  | .documentStart :: rest =>
    goOn rest
    return handles
  | _ => unexpected

def root : Reader Nat := do
  let fuel := 2 * (← tokens).length + 2
  match ← tokens with
  | .directive _ :: _ | .documentStart :: _ =>
    let handles ← explicitStart
    orNothing endsDocument (node handles fuel .outermost)
  | _ => node defaultHandles fuel .outermost

def dropDocumentEnds : List Token → List Token
  | .documentEnd :: rest => dropDocumentEnds rest
  | tokens => tokens

/-- Nothing but the end of the text may follow a document. -/
def finish : Reader Unit := do
  goOn (dropDocumentEnds (← tokens))
  match ← tokens with
  | .streamEnd :: _ => return
  | _ =>
    let _ ← explicitStart
    throw .notYaml

def document? : Reader (Option Document) := do
  match ← tokens with
  | .streamEnd :: _ => return none
  | _ =>
    let root ← root
    finish
    return some ⟨(← get).nodes, root⟩

end Reader

def Document.ofTokens? (tokens : List Token) : Except Fault (Option Document) :=
  (Reader.document?.run' ⟨tokens, #[], []⟩)

end CacheWiring.Yaml
