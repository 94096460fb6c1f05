import CacheWiring.Calendar
import CacheWiring.Number.Binary64
import CacheWiring.Text.Basic

namespace CacheWiring

/-- Leaves that only a document of the configuration format can hold. -/
inductive Special where
  | bytes (content : List UInt8)
  | date (d : Date)
  | timestamp (t : Timestamp)
  deriving DecidableEq

inductive Scalar where
  | null
  | bool (b : Bool)
  | int (n : Int)
  | float (x : Binary64)
  | str (s : Text)
  | special (x : Special)
  deriving DecidableEq

inductive Value where
  | scalar (s : Scalar)
  | list (items : List Value)
  | dict (entries : List (Scalar × Value))
  /-- An item of a list of pairs. -/
  | pair (first second : Value)
  | set (keys : List Scalar)
  /-- One of several collections that contain one another. -/
  | knot (members : List Value) (place : Nat)
  /-- Inside a member of a knot, the member at a place. -/
  | link (place : Nat)

namespace Scalar

/-- The one representative among the scalars that count as the same key. -/
def canonical : Scalar → Scalar
  | .bool b => .int (if b then 1 else 0)
  | .float x =>
    match x.truncate? with
    | some n => if x.isWhole then .int n else .float x
    | none => .float x
  | .special (.timestamp t) => .special (.timestamp t.universal)
  | s => s

def same (a b : Scalar) : Bool := decide (a.canonical = b.canonical)

end Scalar

namespace Value

def lookup (entries : List (Scalar × Value)) (key : Scalar) : Option Value :=
  (entries.find? fun entry => entry.1.same key).map (·.2)

/-- Sets a key: in its first place when it is there, at the end otherwise. -/
def insert {α : Type} (entries : List (Scalar × α)) (key : Scalar) (value : α) :
    List (Scalar × α) :=
  match entries with
  | [] => [(key, value)]
  | (first, old) :: rest =>
    if first.same key then (first, value) :: rest else (first, old) :: insert rest key value

/-- Entries in which a later one of the same key has replaced an earlier one. -/
def distinct {α : Type} (entries : List (Scalar × α)) : List (Scalar × α) :=
  entries.foldl (fun done entry => insert done entry.1 entry.2) []

def ofEntries (entries : List (Scalar × Value)) : Value := .dict (distinct entries)

@[match_pattern] abbrev null : Value := .scalar .null
@[match_pattern] abbrev bool (b : Bool) : Value := .scalar (.bool b)
@[match_pattern] abbrev int (n : Int) : Value := .scalar (.int n)
@[match_pattern] abbrev float (x : Binary64) : Value := .scalar (.float x)
@[match_pattern] abbrev str (s : Text) : Value := .scalar (.str s)

/-- A link of a knot as the member that it refers to. -/
def tied (members : List Value) : Value → Value
  | .link place => .knot members place
  | v => v

/-- The same collection with every link in it tied. -/
def tiedInside (members : List Value) : Value → Value
  | .list items => .list (items.map (tied members))
  | .dict entries => .dict (entries.map fun (key, v) => (key, tied members v))
  | .pair first second => .pair (tied members first) (tied members second)
  | v => v

/-- A knot as the collection that it is; any other value as it stands. -/
def opened : Value → Value
  | .knot members place => tiedInside members ((members[place]?).getD null)
  | v => v

/-- What counts as true in a condition: all but null, false, zero and everything empty. -/
def truthy (v : Value) : Bool :=
  match v.opened with
  | .null => false
  | .bool b => b
  | .int n => n != 0
  | .float x => !x.isZero
  | .str s => !s.isEmpty
  | .scalar (.special (.bytes content)) => !content.isEmpty
  | .list items => !items.isEmpty
  | .dict entries => !entries.isEmpty
  | .set keys => !keys.isEmpty
  | _ => true

def isNull : Value → Bool
  | .null => true
  | _ => false

def isStr (v : Value) (text : Text) : Bool :=
  match v with
  | .str s => s == text
  | _ => false

/-- The value, or another one in place of anything that does not count as true. -/
def orElse (v fallback : Value) : Value := if v.truthy then v else fallback

/-- The scalar that a value is as a key; collections are no keys. -/
def key? : Value → Option Scalar
  | .scalar s => some s
  | _ => none

def entries? (v : Value) : Option (List (Scalar × Value)) :=
  match v.opened with
  | .dict entries => some entries
  | _ => none

def items? (v : Value) : Option (List Value) :=
  match v.opened with
  | .list items => some items
  | _ => none

end Value

end CacheWiring
