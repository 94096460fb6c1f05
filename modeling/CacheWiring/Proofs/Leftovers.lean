import CacheWiring.Proofs.RoundTrips
import CacheWiring.Proofs.Stores

namespace CacheWiring

variable {σ : Type}

/-- A client that holds entries: a write stores its value, a removal takes the entry away, and a read
changes nothing, whatever it replies and whether or not it does. -/
structure Handler.Stores (h : Handler σ) (client : Nat) (holds : σ → Store) : Prop where
  set : ∀ s key value expire,
    (h.answer s (.call client (.set key value expire))).1 = .ok () ∧
      holds (h.answer s (.call client (.set key value expire))).2 = (holds s).hold key value
  delete : ∀ s key,
    (h.answer s (.call client (.delete key))).1 = .ok () ∧
      holds (h.answer s (.call client (.delete key))).2 = (holds s).drop key
  get : ∀ s key fallback, holds (h.answer s (.call client (.get key fallback))).2 = holds s
  freshToken : ∀ s, holds (h.answer s .freshToken).2 = holds s

/-- What is held after a round trip, by what its read has come to. -/
def Store.probed (store : Store) (token : Text) : Except Fault Value → Store
  | .ok _ => store.drop (probeKey token)
  | .error _ => store.hold (probeKey token) (.str Command.probeText)

/-- The calls of a round trip whose write succeeds, by what its read has come to. -/
def Cache.probed (cache : Cache) (token : Text) (reply : Except Fault Value) : List Called :=
  cache.probeWrite token (.ok ()) :: cache.probeRead token reply ::
    match reply with
    | .ok _ => [cache.probeRemoval token (.ok ())]
    | .error _ => []

namespace Store

theorem probed_other (store : Store) (token : Text) (reply : Except Fault Value) {key : Text}
    (hk : key ≠ probeKey token) : store.probed token reply key = store key := by
  cases reply with
  | ok found => exact store.drop_other hk
  | error fault => exact store.hold_other hk _

theorem probed_eq_none_iff (store : Store) (token : Text) (reply : Except Fault Value) :
    store.probed token reply (probeKey token) = none ↔ ∃ found, reply = .ok found := by
  cases reply with
  | ok found => simp [probed]
  | error fault => simp [probed]

/-- An entry that is written and then removed has left no trace. -/
theorem drop_hold (store : Store) (key : Text) (value : Value) :
    (store.hold key value).drop key = store.drop key := Function.update_idem ..

end Store

variable {h : Handler σ} {cache : Cache} {holds : σ → Store}

namespace Handler.Stores

variable (stores : h.Stores cache.client holds)

include stores

theorem run_put (key : Text) (value : Value) (s : σ) :
    ∃ s', (cache.put (.str key) value).run h s =
        ⟨.ok (), s', [.asked (.call cache.client (.set key value cache.expiration)) (.ok ())]⟩ ∧
      holds s' = (holds s).hold key value := by
  obtain ⟨hreply, hheld⟩ := stores.set s key value cache.expiration
  have hrun := Program.run_request h (.call cache.client (.set key value cache.expiration)) s
  rw [hreply] at hrun
  exact ⟨_, hrun, hheld⟩

theorem run_get (key : Text) (fallback : Value) (s : σ) :
    ∃ (reply : Except Fault Value) (s' : σ), (cache.get (.str key) fallback).run h s =
        ⟨reply, s', [.asked (.call cache.client (.get key fallback)) reply]⟩ ∧
      holds s' = holds s :=
  ⟨_, _, rfl, stores.get s key fallback⟩

theorem run_evict (key : Text) (s : σ) :
    ∃ s', (cache.evict (.str key)).run h s =
        ⟨.ok (), s', [.asked (.call cache.client (.delete key)) (.ok ())]⟩ ∧
      holds s' = (holds s).drop key := by
  obtain ⟨hreply, hheld⟩ := stores.delete s key
  have hrun := Program.run_request h (.call cache.client (.delete key)) s
  rw [hreply] at hrun
  exact ⟨_, hrun, hheld⟩

/-- The write succeeds, so the read is made, and it decides whether the removal is. -/
theorem run_probe (token : Text) (s : σ) :
    ∃ reply, calls ((Command.probe cache token).run h s).trace = cache.probed token reply ∧
      holds ((Command.probe cache token).run h s).state = (holds s).probed token reply ∧
      ∀ fault, reply = .error fault →
        ((Command.probe cache token).run h s).outcome = .error fault := by
  obtain ⟨s₁, hput, hwritten⟩ := stores.run_put (probeKey token) (.str Command.probeText) s
  obtain ⟨reply, s₂, hget, hread⟩ := stores.run_get (probeKey token) .null s₁
  obtain ⟨s₃, hevict, hremoved⟩ := stores.run_evict (probeKey token) s₂
  refine ⟨reply, ?_⟩
  simp only [Command.probe, Program.run_bind, hput, hget, Run.andThen_ok]
  cases reply with
  | error fault =>
    refine ⟨rfl, hread.trans hwritten, fun other ho => ?_⟩
    cases ho
    rfl
  | ok found =>
    have hheld : holds s₃ = (holds s).drop (probeKey token) := by
      rw [hremoved, hread, hwritten, Store.drop_hold]
    rw [Run.andThen_ok, hevict, Run.andThen_ok]
    -- whether the reply is the expected one is looked at when all calls are made
    cases found.isStr Command.probeText with
    | true => exact ⟨rfl, hheld, fun fault hr => by cases hr⟩
    | false => exact ⟨rfl, hheld, fun fault hr => by cases hr⟩

end Handler.Stores

/-- After a round trip on such a client every other entry is as it was. The entry of the round trip
is gone exactly when its read has come to a reply, be it the expected one or not. A read that fails
is the last call: its fault ends the round trip, and what was written is still there. -/
theorem probe_removed_iff {h : Handler σ} {cache : Cache} {holds : σ → Store}
    (stores : h.Stores cache.client holds) {s : σ} {token : Text}
    (fresh : (h.answer s .freshToken).1 = .ok token) :
    let run := (Command.roundTrip cache).run h s
    (∀ key, key ≠ probeKey token → holds run.state key = holds s key) ∧
      ∃ reply, calls run.trace = cache.probed token reply ∧
        (holds run.state (probeKey token) = none ↔ ∃ found, reply = .ok found) ∧
        ∀ fault, reply = .error fault → run.outcome = .error fault ∧
          holds run.state (probeKey token) = some (.str Command.probeText) := by
  intro run
  have hstart := stores.freshToken s
  rcases run_roundTrip_cases h cache s with ⟨fault, s', ha, -⟩ | ⟨other, s', ha, hrun⟩
  · rw [ha] at fresh
    cases fresh
  · rw [ha] at fresh hstart
    have hother : token = other := (Except.ok.inj fresh).symm
    subst hother
    obtain ⟨reply, hcalls, hheld, hfault⟩ := stores.run_probe token s'
    have hstate : holds run.state = (holds s).probed token reply := by
      rw [← hstart, ← hheld]
      exact congrArg (fun r => holds r.state) hrun
    refine ⟨fun key hk => ?_, reply, ?_, ?_, fun fault hr => ⟨?_, ?_⟩⟩
    · rw [hstate, Store.probed_other _ _ _ hk]
    · exact (congrArg (fun r => calls r.trace) hrun).trans hcalls
    · rw [hstate, Store.probed_eq_none_iff]
    · exact (congrArg Run.outcome hrun).trans (hfault fault hr)
    · rw [hstate, hr]
      exact Store.hold_same ..

/-- A server that holds entries, and whose reads come to what they like. -/
def Handler.storing (read : Store → Text → Except Fault Value) : Handler Store where
  answer store
    | .call _ (.get key _) => (read store key, store)
    | .call _ (.set key value _) => (.ok (), store.hold key value)
    | .call _ (.delete key) => (.ok (), store.drop key)
    | .freshToken => (.ok [], store)
    | _ => (.error .noFields, store)

theorem Handler.storing_stores (read : Store → Text → Except Fault Value) (client : Nat) :
    (Handler.storing read).Stores client id :=
  ⟨fun _ _ _ _ => ⟨rfl, rfl⟩, fun _ _ => ⟨rfl, rfl⟩, fun _ _ _ => rfl, fun _ => rfl⟩

def probedCache : Cache := ⟨.str ['a'], 0, .int 0⟩

/-- A reply that is not the expected one still lets the entry be removed. -/
theorem stale_reply_leaves_nothing :
    let stale := Handler.storing fun _ _ => .ok (.str "stale")
    let run := (Command.roundTrip probedCache).run stale .empty
    stale.Stores probedCache.client id ∧ (stale.answer .empty .freshToken).1 = .ok [] ∧
      run.outcome = .error (.unexpectedReply (.str "stale")) ∧ run.state (probeKey []) = none := by
  intro stale run
  have stores : stale.Stores probedCache.client id := Handler.storing_stores _ _
  obtain ⟨-, reply, hcalls, hgone, -⟩ := @probe_removed_iff _ stale probedCache id stores .empty [] rfl
  have hreply : ∃ found, reply = .ok found := by
    cases reply with
    | ok found => exact ⟨found, rfl⟩
    -- three calls were made, so the read was not the last one
    | error fault => cases congrArg List.length hcalls
  exact ⟨stores, rfl, rfl, hgone.mpr hreply⟩

/-- A read that fails leaves the entry where it is. -/
theorem not_every_probe_is_removed :
    ¬ ∀ (h : Handler Store) (cache : Cache) (s : Store) (token : Text),
      h.Stores cache.client id → (h.answer s .freshToken).1 = .ok token →
        ((Command.roundTrip cache).run h s).state (probeKey token) = none := by
  intro hall
  have hgone := hall (Handler.storing fun _ _ => .error .noFields) probedCache .empty []
    (Handler.storing_stores _ _) rfl
  cases hgone

end CacheWiring
