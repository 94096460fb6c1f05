import CacheWiring.Fault
import CacheWiring.Number.Numeral

namespace CacheWiring.Value

/-- The entry of a key, if the value is a mapping and has one. -/
def get? (v : Value) (name : Text) : Option Value :=
  v.entries?.bind fun entries => lookup entries (.str name)

def field? (v : Value) (name : Text) : Except Fault (Option Value) :=
  match v.entries? with
  | some entries => .ok (lookup entries (.str name))
  | none => .error .noFields

def fieldOr (v : Value) (name : Text) (fallback : Value) : Except Fault Value :=
  (v.field? name).map (·.getD fallback)

/-- A field, null when it is absent. -/
def field (v : Value) (name : Text) : Except Fault Value := v.fieldOr name null

/-- A field that has to be there. -/
def required (v : Value) (name : Text) : Except Fault Value :=
  match v.entries? with
  | some entries =>
    match lookup entries (.str name) with
    | some value => .ok value
    | none => .error (.missingKey (.str name))
  | none => .error .wrongType

/-- The members of a collection: items of a list, keys of a mapping, characters of a text. -/
def members (v : Value) : Except Fault (List Value) :=
  match v.opened with
  | .list items => .ok items
  | .dict entries => .ok (entries.map fun entry => .scalar entry.1)
  | .pair first second => .ok [first, second]
  | .set keys => .ok (keys.map .scalar)
  | .str s => .ok (s.map fun c => .str [c])
  | .scalar (.special (.bytes content)) => .ok (content.map fun byte => .int byte.toNat)
  | _ => .error .wrongType

/-- How a number stands to an integer: `none` inside when neither is less, `none` outside when the
value is no number. -/
def compareInt? (v : Value) (n : Int) : Option (Option Ordering) :=
  match v with
  | .bool b => some (some (compare (if b then 1 else 0) n))
  | .int m => some (some (compare m n))
  | .float x => some (x.compareInt n)
  | _ => none

def isBelow (v : Value) (n : Int) : Except Fault Bool :=
  match v.compareInt? n with
  | some order => .ok (order == some .lt)
  | none => .error .wrongType

def isAbove (v : Value) (n : Int) : Except Fault Bool :=
  match v.compareInt? n with
  | some order => .ok (order == some .gt)
  | none => .error .wrongType

def whole (v : Value) : Except Fault Int :=
  match v with
  | .bool b => .ok (if b then 1 else 0)
  | .int n => .ok n
  | .float x =>
    match x.truncate? with
    | some n => .ok n
    | none => .error (.noInteger x)
  | _ => .error .wrongType

/-- Bytes as a text in ASCII, with the replacement character for every byte beyond it. -/
def asciiText (content : List UInt8) : Text :=
  content.map fun byte => if byte < 0x80 then .ofNat byte.toNat else '\uFFFD'

/-- The integer a value stands for: the whole part of a number, or a text that writes an integer. In
bytes the text is in ASCII, and only the first two hundred of them are shown when it does not. -/
def toInt (v : Value) : Except Fault Int :=
  match v with
  | .str s => (Numeral.integer 10 s).mapError (Fault.ofNumeral 10 (Text.quoted s))
  | .scalar (.special (.bytes content)) =>
    (Numeral.integer 10 (asciiText content)).mapError
      (Fault.ofNumeral 10 (Text.quotedBytes (content.take 200)))
  | _ => v.whole

def toStr (v : Value) : Except Fault Text :=
  match v with
  | .str s => .ok s
  | _ => .error .wrongType

end CacheWiring.Value
