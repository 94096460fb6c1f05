import CacheWiring.Json.Writer

namespace CacheWiring.Json

def withComma : List String → List String
  | [] => []
  | [line] => [line ++ ","]
  | line :: rest => line :: withComma rest

def separated : List (List String) → List String
  | [] => []
  | [item] => item
  | item :: rest => withComma item ++ separated rest

def block (opening closing : String) (items : List (List String)) : List String :=
  if items.isEmpty then [opening ++ closing]
  else opening :: (separated items).map ("  " ++ ·) ++ [closing]

def array (items : List (List String)) : List String := block "[" "]" items

def field (name : String) : List String → List String
  | [] => []
  | first :: rest => (writeString name ++ ": " ++ first) :: rest

def object (fields : List (String × List String)) : List String :=
  block "\x7b" "\x7d" (fields.map fun (name, lines) => field name lines)

end CacheWiring.Json
