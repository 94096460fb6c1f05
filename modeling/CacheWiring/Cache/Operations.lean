import CacheWiring.Program.Basic

namespace CacheWiring.Cache

/-- Two keys with the same text denote the same entry. A key without a text denotes none. -/
def keyText (key : Value) : Except Fault Text :=
  match key.unwritable? with
  | some reason => .error (.ofUnwritable reason)
  | none => .ok key.text

def get (cache : Cache) (key fallback : Value) : Program Value := do
  let k ← Program.ofExcept (keyText key)
  Program.call cache.client (.get k fallback)

def put (cache : Cache) (key value : Value) : Program Unit := do
  let k ← Program.ofExcept (keyText key)
  Program.call cache.client (.set k value cache.expiration)

/-- Null when the value was stored, and the value already there otherwise. -/
def putIfAbsent (cache : Cache) (key value : Value) : Program Value := do
  let k ← Program.ofExcept (keyText key)
  let stored : Bool ← Program.call cache.client (.add k value cache.expiration)
  if stored then return .null else Program.call cache.client (.get k .null)

def evict (cache : Cache) (key : Value) : Program Unit := do
  let k ← Program.ofExcept (keyText key)
  Program.call cache.client (.delete k)

def clear (cache : Cache) : Program Unit := Program.call cache.client .flushAll

def close (cache : Cache) : Program Unit := Program.call cache.client .close

def description (cache : Cache) : Text :=
  "MemcachedCache(name=" ++ cache.name.literal ++ ", expiration=" ++ cache.expiration.text ++ ")"

end CacheWiring.Cache
