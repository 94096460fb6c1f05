import CacheWiring.Program.Request

namespace CacheWiring

/-- A tree of outputs and requests. It does nothing by itself: a handler answers its requests. -/
inductive Program (α : Type) where
  | done (outcome : Except Fault α)
  | emit (output : Output) (next : Program α)
  | ask (request : Request) (next : Except Fault request.Reply → Program α)

namespace Program

def fail {α : Type} (fault : Fault) : Program α := .done (.error fault)

def ofExcept {α : Type} (outcome : Except Fault α) : Program α := .done outcome

/-- A fault ends the whole program. -/
def bind {α β : Type} : Program α → (α → Program β) → Program β
  | .done (.ok a), f => f a
  | .done (.error fault), _ => .done (.error fault)
  | .emit output next, f => .emit output (next.bind f)
  | .ask request next, f => .ask request fun reply => (next reply).bind f

instance : Monad Program where
  pure a := .done (.ok a)
  bind := Program.bind

/-- The outcome as a value: from here on nothing has failed. -/
def attempt {α : Type} : Program α → Program (Except Fault α)
  | .done outcome => .done (.ok outcome)
  | .emit output next => .emit output next.attempt
  | .ask request next => .ask request fun reply => (next reply).attempt

/-- An outcome as a value, but for a stop. -/
def rescued {α : Type} : Except Fault α → Except Fault (Except Fault α)
  | .ok a => .ok (.ok a)
  | .error fault => if fault.isStop then .error fault else .ok (.error fault)

/-- Deals with errors and lets stops pass. -/
def rescue {α : Type} (p : Program α) : Program (Except Fault α) :=
  p.attempt.bind fun outcome => ofExcept (rescued outcome)

def request (r : Request) : Program r.Reply := .ask r .done

def call (client : Nat) (c : Call) : Program c.Reply := request (.call client c)

def tell (output : Output) : Program Unit := .emit output (.done (.ok ()))

def log (level : Level) (source : LogSource) (message : Text) : Program Unit :=
  tell (.log ⟨level, source, message⟩)

def each {α β : Type} (f : α → Program β) : List α → Program (List β)
  | [] => pure []
  | a :: rest => do
    let b ← f a
    let others ← each f rest
    return b :: others

def quiet {α : Type} : Program α → Program α
  | .done outcome => .done outcome
  | .emit (.log _) next => next.quiet
  | .emit output next => .emit output next.quiet
  | .ask request next => .ask request fun reply => (next reply).quiet

end Program

/-- Answers requests, keeping whatever state it needs. -/
structure Handler (σ : Type) where
  answer : σ → (r : Request) → Except Fault r.Reply × σ

inductive Happening where
  | asked (request : Request) (reply : Except Fault request.Reply)
  | said (output : Output)

structure Run (σ α : Type) where
  outcome : Except Fault α
  state : σ
  trace : List Happening

namespace Program

def run {σ α : Type} (h : Handler σ) : Program α → σ → Run σ α
  | .done outcome, state => ⟨outcome, state, []⟩
  | .emit output next, state =>
    let rest := run h next state
    { rest with trace := .said output :: rest.trace }
  | .ask request next, state =>
    let (reply, state) := h.answer state request
    let rest := run h (next reply) state
    { rest with trace := .asked request reply :: rest.trace }

end Program

end CacheWiring
