import CacheWiring.Value.Access

namespace CacheWiring

inductive Step where
  | field (name : String)
  | item (index : Nat)
  deriving DecidableEq

def Step.text : Step → String
  | .field name => name
  | .item index => toString index

inductive Shape where
  | exactly (text : String)
  | oneOf (texts : List String)
  | string (nonEmpty : Bool)
  | integer (least : Int) (most : Option Int)
  /-- A number that is not at or below a bound. -/
  | number (bound : Int)
  | list (items : Shape)
  /-- A mapping. A closed one has no fields but the named ones. -/
  | record (required : List String) (closed : Bool) (fields : List (String × Shape))

inductive Departure where
  | notOfType (found : Value) (type : String)
  | notExactly (text : String)
  | notOneOf (found : Value) (texts : List String)
  | missing (name : String)
  | unexpected (keys : List Scalar)
  | empty (found : Value)
  | below (found : Value) (least : Int)
  | above (found : Value) (most : Int)
  | notAbove (found : Value) (bound : Int)

structure Problem where
  path : List Step
  departure : Departure

def Departure.message : Departure → Text
  | .notOfType found type => found.literal ++ " is not of type " ++ Text.quoted type
  | .notExactly text => Text.quoted text ++ " was expected"
  | .notOneOf found texts =>
    found.literal ++ " is not one of "
      ++ (Value.list (texts.map fun (text : String) => .str text)).literal
  | .missing name => Text.quoted name ++ " is a required property"
  | .unexpected keys =>
    "Additional properties are not allowed (" ++ Text.joined ", " (keys.map Scalar.literal)
      ++ (if keys.length = 1 then " was" else " were") ++ " unexpected)"
  | .empty found => found.literal ++ " should be non-empty"
  | .below found least => found.literal ++ " is less than the minimum of " ++ toString least
  | .above found most => found.literal ++ " is greater than the maximum of " ++ toString most
  | .notAbove found bound =>
    found.literal ++ " is less than or equal to the minimum of " ++ toString bound

/-- Why the message cannot be written, if a value that it shows has no text. -/
def Departure.unwritable? : Departure → Option Unwritable
  | .notOfType found _ | .notOneOf found _ | .empty found | .below found _ | .above found _
  | .notAbove found _ => found.unwritable?
  | .unexpected keys => Scalar.firstUnwritable? keys
  | .notExactly _ | .missing _ => none

namespace Value

/-- Truth values are no numbers. -/
def isNumber : Value → Bool
  | .int _ | .float _ => true
  | _ => false

/-- A double without a fraction is an integer. -/
def isInteger : Value → Bool
  | .int _ => true
  | .float x => x.isWhole
  | _ => false

/-- How a number stands to an integer; nothing for any other value. -/
def standing (v : Value) (n : Int) : Option Ordering :=
  if v.isNumber then (v.compareInt? n).getD none else none

end Value

namespace Shape

/-- The departure of a value that is not of its type, next to which others may be found. -/
def typeDeparture (holds : Bool) (found : Value) (type : String) : List Departure :=
  if holds then [] else [.notOfType found type]

def textDepartures (nonEmpty : Bool) : Value → List Departure
  | .str s => if nonEmpty && s.isEmpty then [.empty (.str s)] else []
  | v => [.notOfType v "string"]

def integerDepartures (least : Int) (most : Option Int) (v : Value) : List Departure :=
  typeDeparture v.isInteger v "integer"
    ++ (if v.standing least == some .lt then [.below v least] else [])
    ++ match most with
      | some bound => if v.standing bound == some .gt then [.above v bound] else []
      | none => []

def numberDepartures (bound : Int) (v : Value) : List Departure :=
  typeDeparture v.isNumber v "number"
    ++ match v.standing bound with
      | some .lt | some .eq => [.notAbove v bound]
      | _ => []

/-- The keys that are not among the named fields, in the order of their texts. Among keys of the
same text a quoted one is first, wherever it stands in the document. -/
def unexpectedKeys (names : List String) (entries : List (Scalar × Value)) : List Scalar :=
  let others := (entries.map (·.1)).filter fun key => !names.any fun name => key.same (.str name)
  others.mergeSort fun a b => !decide ([b.text, b.literal] < [a.text, a.literal])

def recordDepartures (required : List String) (closed : Bool) (names : List String)
    (entries : List (Scalar × Value)) : List Departure :=
  let missing := required.filter fun (name : String) => (Value.lookup entries (.str name)).isNone
  let others := if closed then unexpectedKeys names entries else []
  missing.map .missing ++ (if others.isEmpty then [] else [.unexpected others])

def located (path : List Step) (departures : List Departure) : List Problem :=
  departures.map fun departure => ⟨path, departure⟩

mutual

/-- The problems of a value at a path, each place before the places inside it. -/
def problems (path : List Step) : Shape → Value → List Problem
  | .exactly text, v => located path (if v.isStr text then [] else [.notExactly text])
  | .oneOf texts, v =>
    located path (if texts.any fun text => v.isStr text then [] else [.notOneOf v texts])
  | .string nonEmpty, v => located path (textDepartures nonEmpty v)
  | .integer least most, v => located path (integerDepartures least most v)
  | .number bound, v => located path (numberDepartures bound v)
  | .list items, v =>
    match v.items? with
    | some values =>
      values.zipIdx.flatMap fun (value, index) => problems (path ++ [.item index]) items value
    | none => located path [.notOfType v "array"]
  | .record required closed fields, v =>
    match v.entries? with
    | some entries =>
      located path (recordDepartures required closed (fields.map (·.1)) entries)
        ++ fieldProblems path entries fields
    | none => located path [.notOfType v "object"]

def fieldProblems (path : List Step) (entries : List (Scalar × Value)) :
    List (String × Shape) → List Problem
  | [] => []
  | (name, shape) :: rest =>
    (match Value.lookup entries (.str name) with
      | some value => problems (path ++ [.field name]) shape value
      | none => []) ++ fieldProblems path entries rest

end

end Shape

end CacheWiring
