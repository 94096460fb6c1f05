import CacheWiring.Number.Numeral
import CacheWiring.Number.Shortest
import CacheWiring.Text.Quoted
import CacheWiring.Value.Basic

namespace CacheWiring

def Special.literal : Special → Text
  | .bytes content => Text.quotedBytes content
  | .date d => d.literal
  | .timestamp t => t.literal

def Scalar.literal : Scalar → Text
  | .null => "None"
  | .bool b => if b then "True" else "False"
  | .int n => toString n
  | .float x => x.text
  | .str s => Text.quoted s
  | .special x => x.literal

def Scalar.text : Scalar → Text
  | .str s => s
  | .special (.date d) => d.text
  | .special (.timestamp t) => t.text
  | s => s.literal

inductive Unwritable where
  | tooManyDigits
  | tooDeep
  deriving DecidableEq

def Scalar.unwritable? : Scalar → Option Unwritable
  | .int n => if Numeral.isWritable n then none else some .tooManyDigits
  | _ => none

def Scalar.firstUnwritable? (keys : List Scalar) : Option Unwritable :=
  keys.findSome? Scalar.unwritable?

namespace Value

/-- What stands for a collection inside itself. -/
def dots : Value → Text
  | .list _ => "[...]"
  | .pair .. => "(...)"
  | _ => "\x7b...\x7d"

/-- What is found at a member of a knot, given what each member finds when it knows what to find at
its links. A member inside itself finds what `again` says. -/
def throughLinks {α : Type} (again : Nat → α) (members : List ((Nat → α) → α)) :
    Nat → List Nat → Nat → α
  | 0, _, place => again place
  | fuel + 1, within, place =>
    if within.contains place then again place
    else
      match members[place]? with
      | some member => member (throughLinks again members fuel (place :: within))
      | none => again place

/-- What is found at a knot; no path through it meets more members than it has. -/
def throughKnot {α : Type} (again : Nat → α) (members : List ((Nat → α) → α)) (place : Nat) : α :=
  throughLinks again members (members.length + 1) [] place

def dotsAt (members : List Value) (place : Nat) : Text :=
  ((members[place]?).map dots).getD ""

mutual

/-- The text of a value in which every link has a text. -/
def literalWith (links : Nat → Text) : Value → Text
  | .scalar s => s.literal
  | .list items => "[" ++ Text.joined ", " (itemLiterals links items) ++ "]"
  | .dict entries => "\x7b" ++ Text.joined ", " (entryLiterals links entries) ++ "\x7d"
  | .pair first second => "(" ++ literalWith links first ++ ", " ++ literalWith links second ++ ")"
  | .set keys =>
    if keys.isEmpty then "set()"
    else "\x7b" ++ Text.joined ", " (keys.map Scalar.literal) ++ "\x7d"
  | .knot members place => throughKnot (dotsAt members) (memberLiterals members) place
  | .link place => links place

def itemLiterals (links : Nat → Text) : List Value → List Text
  | [] => []
  | item :: rest => literalWith links item :: itemLiterals links rest

def entryLiterals (links : Nat → Text) : List (Scalar × Value) → List Text
  | [] => []
  | (key, value) :: rest =>
    (key.literal ++ ": " ++ literalWith links value) :: entryLiterals links rest

def memberLiterals : List Value → List ((Nat → Text) → Text)
  | [] => []
  | member :: rest => (fun links => literalWith links member) :: memberLiterals rest

end

def literal (v : Value) : Text := literalWith (fun _ => "") v

def text : Value → Text
  | .scalar s => s.text
  | v => v.literal

mutual

/-- Why a value has no text, if it has none, when `room` more levels may come and it is known about
every link. Of several reasons the first one counts. -/
def unwritableWith (links : Nat → Nat → Option Unwritable) : Nat → Value → Option Unwritable
  | 0, _ => some .tooDeep
  | _ + 1, .scalar s => s.unwritable?
  | room + 1, .list items => firstUnwritable links room items
  | room + 1, .dict entries => firstUnwritableEntry links room entries
  | room + 1, .pair first second =>
    (unwritableWith links room first).or (unwritableWith links room second)
  | _ + 1, .set keys => Scalar.firstUnwritable? keys
  | room + 1, .knot members place =>
    throughKnot (fun _ _ => none) (membersUnwritable members) place (room + 1)
  | room + 1, .link place => links place (room + 1)

def firstUnwritable (links : Nat → Nat → Option Unwritable) :
    Nat → List Value → Option Unwritable
  | _, [] => none
  | room, item :: rest =>
    (unwritableWith links room item).or (firstUnwritable links room rest)

def firstUnwritableEntry (links : Nat → Nat → Option Unwritable) :
    Nat → List (Scalar × Value) → Option Unwritable
  | _, [] => none
  | room, (key, value) :: rest =>
    (key.unwritable?.or (unwritableWith links room value)).or
      (firstUnwritableEntry links room rest)

def membersUnwritable :
    List Value → List ((Nat → Nat → Option Unwritable) → Nat → Option Unwritable)
  | [] => []
  | member :: rest => (fun links room => unwritableWith links room member) :: membersUnwritable rest

end

/-- How many levels a value may have to be shown. -/
def maxLevels : Nat := 985

def unwritable? (v : Value) : Option Unwritable := unwritableWith (fun _ _ => none) maxLevels v

end Value

end CacheWiring
