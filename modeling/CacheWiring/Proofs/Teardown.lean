import CacheWiring.Context
import CacheWiring.Proofs.Traces

namespace CacheWiring

variable {σ α : Type}

/-- What the close of each cache comes to when all of them are asked in turn. -/
def closeOutcomes (h : Handler σ) : List Cache → σ → List (Except Fault Unit)
  | [], _ => []
  | cache :: rest, s =>
    (cache.close.run h s).outcome :: closeOutcomes h rest (cache.close.run h s).state

/-- How many caches one pass asks: those up to and including the first that fails. -/
def closeReach : List (Except Fault Unit) → Nat
  | [] => 0
  | .ok _ :: rest => closeReach rest + 1
  | .error _ :: _ => 1

/-- The fault that ends a pass, if one does. -/
def closeFault? : List (Except Fault Unit) → Option Fault
  | [] => none
  | .ok _ :: rest => closeFault? rest
  | .error fault :: _ => some fault

def closePass (outcomes : List (Except Fault Unit)) : Except Fault Unit :=
  match closeFault? outcomes with
  | some fault => .error fault
  | none => .ok ()

theorem closings_close (h : Handler σ) (cache : Cache) (s : σ) :
    closings (cache.close.run h s).trace = [cache.client] := rfl

theorem length_closeOutcomes (h : Handler σ) (caches : List Cache) (s : σ) :
    (closeOutcomes h caches s).length = caches.length := by
  induction caches generalizing s with
  | nil => rfl
  | cons cache rest ih => simp [closeOutcomes, ih]

theorem closeFault?_eq_none_iff (outcomes : List (Except Fault Unit)) :
    closeFault? outcomes = none ↔ ∀ outcome ∈ outcomes, outcome = .ok () := by
  induction outcomes with
  | nil => simp [closeFault?]
  | cons outcome rest ih => cases outcome <;> simp [closeFault?, ih]

theorem mem_of_closeFault? {outcomes : List (Except Fault Unit)} {fault : Fault}
    (hf : closeFault? outcomes = some fault) : .error fault ∈ outcomes := by
  induction outcomes with
  | nil => cases hf
  | cons outcome rest ih =>
    cases outcome with
    | ok _ => exact List.mem_cons_of_mem _ (ih hf)
    | error other =>
      cases hf
      exact List.mem_cons_self

theorem exists_of_mem_closeOutcomes {h : Handler σ} {caches : List Cache} {s : σ}
    {outcome : Except Fault Unit} (hm : outcome ∈ closeOutcomes h caches s) :
    ∃ cache ∈ caches, ∃ s', (cache.close.run h s').outcome = outcome := by
  induction caches generalizing s with
  | nil => cases hm
  | cons cache rest ih =>
    rcases List.mem_cons.mp hm with rfl | hm
    · exact ⟨cache, List.mem_cons_self, s, rfl⟩
    · obtain ⟨other, ho, s', hs⟩ := ih hm
      exact ⟨other, List.mem_cons_of_mem cache ho, s', hs⟩

theorem closePass_eq_ok_iff (outcomes : List (Except Fault Unit)) :
    closePass outcomes = .ok () ↔ ∀ outcome ∈ outcomes, outcome = .ok () := by
  rw [← closeFault?_eq_none_iff, closePass]
  cases closeFault? outcomes <;> simp

theorem closePass_error {outcomes : List (Except Fault Unit)} {fault : Fault}
    (hf : closeFault? outcomes = some fault) : closePass outcomes = .error fault := by
  simp [closePass, hf]

/-- A pass gets to the last cache when no cache before it fails. -/
theorem length_le_closeReach_iff (outcomes : List (Except Fault Unit)) :
    outcomes.length ≤ closeReach outcomes ↔ ∀ outcome ∈ outcomes.dropLast, outcome = .ok () := by
  induction outcomes with
  | nil => simp
  | cons outcome rest ih =>
    cases outcome with
    | error fault => cases rest <;> simp [closeReach]
    | ok _ =>
      simp only [closeReach, List.length_cons, Nat.add_le_add_iff_right, ih]
      cases rest <;> simp

theorem run_closeAll_cons (h : Handler σ) (cache : Cache) (rest : List Cache) (s : σ) :
    (Registry.closeAll (cache :: rest)).run h s =
      (cache.close.run h s).andThen fun _ s => (Registry.closeAll rest).run h s := by
  simp only [Registry.closeAll, Program.run_bind, Program.run_each_cons]
  obtain ⟨outcome, s', trace⟩ := cache.close.run h s
  cases outcome with
  | error fault => rfl
  | ok _ =>
    simp only [Run.andThen_ok]
    obtain ⟨others, s'', after⟩ := (Program.each Cache.close rest).run h s'
    cases others <;> simp

/-- Nothing happens in a pass but that clients are asked to close. -/
theorem closeAll_only {allowed : Happening → Prop}
    (hclose : ∀ client reply, allowed (.asked (.call client .close) reply)) (caches : List Cache) :
    (Registry.closeAll caches).Only allowed := by
  have heach (cache : Cache) : cache.close.Only allowed := .request (hclose cache.client)
  exact (Program.Only.each heach caches).bind fun _ => .pure _

/-- One pass over caches: what it comes to, and who is asked. -/
theorem run_closeAll (h : Handler σ) (caches : List Cache) (s : σ) :
    ((Registry.closeAll caches).run h s).outcome = closePass (closeOutcomes h caches s) ∧
      closings ((Registry.closeAll caches).run h s).trace =
        (caches.take (closeReach (closeOutcomes h caches s))).map Cache.client := by
  induction caches generalizing s with
  | nil => exact ⟨rfl, rfl⟩
  | cons cache rest ih =>
    have hc := closings_close h cache s
    rw [run_closeAll_cons, closeOutcomes]
    generalize cache.close.run h s = closing at hc ⊢
    obtain ⟨outcome, s', trace⟩ := closing
    cases outcome with
    | error fault => exact ⟨rfl, hc⟩
    | ok _ =>
      obtain ⟨hpass, hasked⟩ := ih s'
      refine ⟨hpass, ?_⟩
      rw [Run.andThen_ok, closings_append, hasked]
      exact congrArg (· ++ _) hc

def Cache.closing (cache : Cache) : Called := ⟨cache.client, .close, .ok ()⟩

/-- A close that was asked for and done. -/
def Cache.closed (cache : Cache) : Happening :=
  .asked (.call cache.client .close) (.ok () : Except Fault Unit)

theorem run_closeAll_closed {h : Handler σ} {caches : List Cache}
    (hcloses : ∀ cache ∈ caches, ∀ s, (cache.close.run h s).outcome = .ok ()) (s : σ) :
    (Registry.closeAll caches).run h s =
      ⟨.ok (), ((Registry.closeAll caches).run h s).state, caches.map Cache.closed⟩ := by
  induction caches generalizing s with
  | nil => rfl
  | cons cache rest ih =>
    obtain ⟨hfirst, hrest⟩ := List.forall_mem_cons.mp hcloses
    have hclosed : (cache.close.run h s).trace = [cache.closed] := by
      have hreply := hfirst s
      change (h.answer s (.call cache.client .close)).1 = .ok () at hreply
      change [Happening.asked _ (h.answer s (.call cache.client .close)).1] = [cache.closed]
      rw [hreply]
      rfl
    rw [run_closeAll_cons, Run.andThen_of_ok (hfirst s), ih hrest, hclosed]
    rfl

/-- A pass succeeds exactly when every cache is closed in it. -/
theorem calls_closeAll_iff (h : Handler σ) (caches : List Cache) (s : σ) :
    calls ((Registry.closeAll caches).run h s).trace = caches.map Cache.closing ↔
      ((Registry.closeAll caches).run h s).outcome = .ok () := by
  induction caches generalizing s with
  | nil => exact ⟨fun _ => rfl, fun _ => rfl⟩
  | cons cache rest ih =>
    have hcalls : calls (cache.close.run h s).trace =
        [⟨cache.client, .close, (cache.close.run h s).outcome⟩] := rfl
    rw [run_closeAll_cons]
    generalize cache.close.run h s = closing at hcalls ⊢
    obtain ⟨outcome, s', trace⟩ := closing
    cases outcome with
    | error fault =>
      rw [Run.andThen_error, hcalls]
      constructor
      · intro hp
        obtain ⟨hfirst, -⟩ := List.cons.inj hp
        cases @eq_of_heq (Except Fault Unit) _ _ (Called.mk.inj hfirst).2.2
      · intro hp
        cases hp
    | ok _ =>
      rw [Run.andThen_ok, calls_append, hcalls]
      exact (List.append_right_inj [cache.closing]).trans (ih s')

/-- A pass that fails does so by a cache that could not be closed. -/
theorem closeAll_stuck (h : Handler σ) {caches : List Cache} {s : σ} {fault : Fault}
    (hf : ((Registry.closeAll caches).run h s).outcome = .error fault) :
    ∃ client, ⟨client, .close, .error fault⟩ ∈ calls ((Registry.closeAll caches).run h s).trace := by
  induction caches generalizing s with
  | nil => cases hf
  | cons cache rest ih =>
    have hcalls : calls (cache.close.run h s).trace =
        [⟨cache.client, .close, (cache.close.run h s).outcome⟩] := rfl
    rw [run_closeAll_cons] at hf ⊢
    generalize cache.close.run h s = closing at hcalls hf ⊢
    obtain ⟨outcome, s', trace⟩ := closing
    cases outcome with
    | error other =>
      cases hf
      exact ⟨cache.client, hcalls ▸ List.mem_cons_self⟩
    | ok _ =>
      obtain ⟨client, hm⟩ := ih hf
      refine ⟨client, ?_⟩
      rw [Run.andThen_ok, calls_append]
      exact List.mem_append_right _ hm

/-- Every cache has its turn exactly when none but the last one fails. -/
theorem take_closeReach_eq_iff (h : Handler σ) (caches : List Cache) (s : σ) :
    caches.take (closeReach (closeOutcomes h caches s)) = caches ↔
      ∀ outcome ∈ (closeOutcomes h caches s).dropLast, outcome = .ok () := by
  rw [← length_le_closeReach_iff, length_closeOutcomes]
  constructor
  · intro he
    have hl := congrArg List.length he
    rw [List.length_take] at hl
    omega
  · exact List.take_of_length_le

def closedRecord : LogRecord := ⟨.info, .context, "caching context closed"⟩

/-- An open context is closed by a pass over its caches in which none of them fails. -/
theorem run_close_open (h : Handler σ) {context : CachingContext} (hopen : context.closed = false)
    (s : σ) :
    context.close.run h s = ((Registry.closeAll context.registry.caches).run h s).andThen fun _ s =>
      ⟨.ok { context with closed := true }, s, [.said (.log closedRecord)]⟩ := by
  simp only [CachingContext.close, hopen, Bool.false_eq_true, ↓reduceIte, Program.run_bind]
  rfl

/-- A block of work is left with its own outcome, or with the fault of the close. -/
theorem run_leave (h : Handler σ) (context : CachingContext) (outcome : Except Fault α) (s : σ) :
    let closing := context.close.run h s
    (context.leave outcome).run h s = ⟨.ok (match closing.outcome with
      | .ok closed => (outcome, closed)
      | .error fault => (.error fault, context)), closing.state, closing.trace⟩ := by
  simp only [CachingContext.leave, Program.run_bind, Program.run_attempt, Run.andThen_ok]
  cases (context.close.run h s).outcome <;> simp

theorem closings_run_close (h : Handler σ) (context : CachingContext)
    (hopen : context.closed = false) (s : σ) :
    closings (context.close.run h s).trace = closings (context.registry.close.run h s).trace := by
  rw [run_close_open h hopen]
  change closings (Run.andThen (context.registry.close.run h s) _).trace = _
  obtain ⟨outcome, s', trace⟩ := context.registry.close.run h s
  cases outcome <;> simp

theorem closings_run_leave (h : Handler σ) (context : CachingContext)
    (outcome : Except Fault α) (s : σ) :
    closings ((context.leave outcome).run h s).trace = closings (context.close.run h s).trace := by
  rw [run_leave]

/-- Tearing down, be it the registry or the context that owns it or a block of work that is left,
asks the caches in order up to and including the first that fails to close. So each cache has its
turn exactly when none of them but the last one fails. -/
theorem teardown_asks_every_cache_iff (h : Handler σ) (c : Configuration) (registry : Registry)
    (resolved : List ResolvedCluster) (outcome : Except Fault α) (s : σ) :
    let context : CachingContext := ⟨c, registry, resolved, false⟩
    let outcomes := closeOutcomes h registry.caches s
    let asked := registry.caches.take (closeReach outcomes)
    closings (registry.close.run h s).trace = asked.map Cache.client ∧
      closings (context.close.run h s).trace = asked.map Cache.client ∧
      closings ((context.leave outcome).run h s).trace = asked.map Cache.client ∧
      (asked = registry.caches ↔ ∀ outcome ∈ outcomes.dropLast, outcome = .ok ()) := by
  intro context outcomes asked
  have hr := (run_closeAll h registry.caches s).2
  have hc := closings_run_close h context rfl s
  have hl := closings_run_leave h context outcome s
  exact ⟨hr, hc.trans hr, (hl.trans hc).trans hr, take_closeReach_eq_iff h registry.caches s⟩

/-- Cache servers that can do nothing but close, each client with an outcome of its own. -/
def Handler.closing (outcomes : Nat → Except Fault Unit) : Handler Unit where
  answer s
    | .call client .close => (outcomes client, s)
    | _ => (.error .noFields, s)

/-- Of all clients only the first cannot be closed. -/
def firstStuck : Handler Unit :=
  .closing fun client => if client = 0 then .error .wrongType else .ok ()

def pairOfCaches : Registry := ⟨[⟨.str ['a'], 0, .null⟩, ⟨.str ['b'], 1, .null⟩], rfl⟩

/-- A cache behind one that fails to close is left open. -/
theorem not_every_teardown_asks_all :
    ¬ ∀ (h : Handler Unit) (registry : Registry),
      closings (registry.close.run h ()).trace = registry.caches.map Cache.client := by
  intro hall
  have hfirst : closings (pairOfCaches.close.run firstStuck ()).trace = [0] := rfl
  cases hfirst.symm.trans (hall firstStuck pairOfCaches)

end CacheWiring
