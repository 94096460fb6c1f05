import CacheWiring.Command.Run
import CacheWiring.Proofs.Shapes
import CacheWiring.Proofs.Traces

namespace CacheWiring

variable {σ : Type}

def probeKey (token : Text) : Text := "__check__" ++ token

namespace Command

/-- What is left of a round trip once there is a token for it. -/
def probe (cache : Cache) (token : Text) : Program Unit := do
  cache.put (.str (probeKey token)) (.str probeText)
  let found ← cache.get (.str (probeKey token)) .null
  cache.evict (.str (probeKey token))
  if !found.isStr probeText then Program.fail (unexpected found)

theorem roundTrip_eq (cache : Cache) :
    roundTrip cache = Program.request .freshToken >>= probe cache := rfl

end Command

namespace Cache

variable (cache : Cache) (token : Text)

def probeWrite (reply : Except Fault Unit) : Called :=
  ⟨cache.client, .set (probeKey token) (.str Command.probeText) cache.expiration, reply⟩

def probeRead (reply : Except Fault Value) : Called :=
  ⟨cache.client, .get (probeKey token) .null, reply⟩

def probeRemoval (reply : Except Fault Unit) : Called :=
  ⟨cache.client, .delete (probeKey token), reply⟩

end Cache

/-- How a round trip can go: its token, the calls on the client with what came of them, and the
outcome. It succeeds when all three calls do and the read finds what was written. -/
inductive Tried (cache : Cache) : Except Fault Text → List Called → Except Fault Unit → Prop
  | noToken {fault : Fault} : Tried cache (.error fault) [] (.error fault)
  | notWritten {token : Text} {fault : Fault} :
      Tried cache (.ok token) [cache.probeWrite token (.error fault)] (.error fault)
  | notRead {token : Text} {fault : Fault} :
      Tried cache (.ok token)
        [cache.probeWrite token (.ok ()), cache.probeRead token (.error fault)] (.error fault)
  | notRemoved {token : Text} {found : Value} {fault : Fault} :
      Tried cache (.ok token)
        [cache.probeWrite token (.ok ()), cache.probeRead token (.ok found),
          cache.probeRemoval token (.error fault)] (.error fault)
  | different {token : Text} {found : Value} (hd : found ≠ .str Command.probeText) :
      Tried cache (.ok token)
        [cache.probeWrite token (.ok ()), cache.probeRead token (.ok found),
          cache.probeRemoval token (.ok ())] (.error (Command.unexpected found))
  | passed {token : Text} :
      Tried cache (.ok token)
        [cache.probeWrite token (.ok ()), cache.probeRead token (.ok (.str Command.probeText)),
          cache.probeRemoval token (.ok ())] (.ok ())

variable (h : Handler σ)

theorem run_put (cache : Cache) (key : Text) (value : Value) (s : σ) :
    ∃ (reply : Except Fault Unit) (s' : σ), (cache.put (.str key) value).run h s =
      ⟨reply, s', [.asked (.call cache.client (.set key value cache.expiration)) reply]⟩ :=
  ⟨_, _, rfl⟩

theorem run_get (cache : Cache) (key : Text) (fallback : Value) (s : σ) :
    ∃ (reply : Except Fault Value) (s' : σ), (cache.get (.str key) fallback).run h s =
      ⟨reply, s', [.asked (.call cache.client (.get key fallback)) reply]⟩ :=
  ⟨_, _, rfl⟩

theorem run_evict (cache : Cache) (key : Text) (s : σ) :
    ∃ (reply : Except Fault Unit) (s' : σ), (cache.evict (.str key)).run h s =
      ⟨reply, s', [.asked (.call cache.client (.delete key)) reply]⟩ :=
  ⟨_, _, rfl⟩

/-- The three calls of a round trip in order, each of which can end it. -/
theorem run_probe (cache : Cache) (token : Text) (s : σ) :
    Tried cache (.ok token) (calls ((Command.probe cache token).run h s).trace)
      ((Command.probe cache token).run h s).outcome := by
  simp only [Command.probe, Program.run_bind]
  obtain ⟨written, s₁, hput⟩ := run_put h cache (probeKey token) (.str Command.probeText) s
  rw [hput]
  cases written with
  | error fault => exact .notWritten
  | ok _ =>
    obtain ⟨read, s₂, hget⟩ := run_get h cache (probeKey token) .null s₁
    rw [Run.andThen_ok, hget]
    cases read with
    | error fault => exact .notRead
    | ok found =>
      obtain ⟨removed, s₃, hevict⟩ := run_evict h cache (probeKey token) s₂
      rw [Run.andThen_ok, hevict]
      cases removed with
      | error fault => exact .notRemoved
      | ok _ =>
        rw [Run.andThen_ok]
        cases hf : found.isStr Command.probeText with
        | true =>
          obtain rfl := (Shape.isStr_iff _ _).mp hf
          exact .passed
        | false =>
          have hd : found ≠ .str Command.probeText := by
            rw [Ne, ← Shape.isStr_iff, hf]
            exact Bool.false_ne_true
          exact .different hd

/-- A round trip goes no further without a token, and with one it is the three calls. -/
theorem run_roundTrip_cases (cache : Cache) (s : σ) :
    (∃ fault s', h.answer s .freshToken = (.error fault, s') ∧
        (Command.roundTrip cache).run h s =
          ⟨.error fault, s', [.asked .freshToken (.error fault)]⟩) ∨
      ∃ token s', h.answer s .freshToken = (.ok token, s') ∧
        (Command.roundTrip cache).run h s =
          (Run.mk (.ok token) s' [.asked .freshToken (.ok token)]).andThen fun token s =>
            (Command.probe cache token).run h s := by
  have hrun := Program.run_bind h (Program.request .freshToken) (Command.probe cache) s
  rw [Program.run_request] at hrun
  rw [Command.roundTrip_eq, hrun]
  generalize h.answer s .freshToken = fresh
  obtain ⟨token, s'⟩ := fresh
  cases token with
  | error fault => exact .inl ⟨fault, s', rfl, rfl⟩
  | ok token => exact .inr ⟨token, s', rfl, rfl⟩

/-- A round trip, tried on a cache. -/
structure Trial where
  cache : Cache
  token : Except Fault Text
  calls : List Called
  outcome : Except Fault Unit

namespace Trial

def result (t : Trial) : CheckResult :=
  ⟨t.cache.name.text, match t.outcome with
    | .ok _ => none
    | .error fault => some fault⟩

/-- Why the program is to end, if the round trip has come to that. -/
def stop? (t : Trial) : Option Stop :=
  match t.outcome with
  | .error (.stop reason) => some reason
  | _ => none

theorem stop?_eq_some_iff (t : Trial) (reason : Stop) :
    t.stop? = some reason ↔ t.outcome = .error (.stop reason) := by
  unfold stop?
  split <;> simp_all

end Trial

def trialOf (cache : Cache) (s : σ) : Trial :=
  ⟨cache, (h.answer s .freshToken).1, calls ((Command.roundTrip cache).run h s).trace,
    ((Command.roundTrip cache).run h s).outcome⟩

/-- What trials come to: their results, unless one of them has stopped the program. -/
def gathered (tried : List Trial) : Except Fault (List CheckResult) :=
  match tried.findSome? Trial.stop? with
  | some reason => .error (.stop reason)
  | none => .ok (tried.map Trial.result)

theorem gathered_of_unstopped {tried : List Trial} (hno : ∀ t ∈ tried, t.stop? = none) :
    gathered tried = .ok (tried.map Trial.result) := by
  rw [gathered, List.findSome?_eq_none_iff.mpr hno]

theorem gathered_of_stop {tried : List Trial} {reason : Stop}
    (hs : tried.findSome? Trial.stop? = some reason) :
    gathered tried = .error (.stop reason) := by
  rw [gathered, hs]

theorem gathered_stopped {t : Trial} {reason : Stop} (ht : t.stop? = some reason)
    (rest : List Trial) : gathered (t :: rest) = .error (.stop reason) := by
  simp [gathered, ht]

theorem gathered_cons {t : Trial} (ht : t.stop? = none) (rest : List Trial) :
    gathered (t :: rest) = (gathered rest).map (t.result :: ·) := by
  simp only [gathered, List.findSome?_cons, ht]
  cases rest.findSome? Trial.stop? <;> rfl

variable {h} in
/-- A stop goes past the check of a cache. -/
theorem run_checkCache_stopped {cache : Cache} {s : σ} {reason : Stop}
    (ht : (trialOf h cache s).stop? = some reason) :
    (Command.checkCache cache).run h s =
      ⟨.error (.stop reason), ((Command.roundTrip cache).run h s).state,
        ((Command.roundTrip cache).run h s).trace⟩ := by
  have houtcome : ((Command.roundTrip cache).run h s).outcome = .error (.stop reason) :=
    (Trial.stop?_eq_some_iff _ _).mp ht
  simp [Command.checkCache, Program.run_bind, houtcome, Run.andThen_of_error]

variable {h} in
/-- Any other outcome becomes its result. -/
theorem run_checkCache {cache : Cache} {s : σ} (ht : (trialOf h cache s).stop? = none) :
    (Command.checkCache cache).run h s =
      ⟨.ok (trialOf h cache s).result, ((Command.roundTrip cache).run h s).state,
        ((Command.roundTrip cache).run h s).trace⟩ := by
  simp only [Command.checkCache, Program.run_bind, Program.run_rescue]
  unfold trialOf at ht ⊢
  unfold Trial.result
  generalize (Command.roundTrip cache).run h s = trip at ht ⊢
  obtain ⟨outcome, s', trace⟩ := trip
  cases outcome with
  | ok _ => simp
  | error fault =>
    have hs : ∀ reason, fault ≠ .stop reason := by
      rintro reason rfl
      cases ht
    simp [Program.rescued_error (Fault.isStop_eq_false_iff.mpr hs)]

/-- The round trips of caches one after another, up to one that stops the program. -/
def trials : List Cache → σ → List Trial
  | [], _ => []
  | cache :: rest, s =>
    let t := trialOf h cache s
    t :: if t.stop?.isSome then [] else trials rest ((Command.roundTrip cache).run h s).state

theorem trials_cons_stopped {cache : Cache} {s : σ} {reason : Stop}
    (ht : (trialOf h cache s).stop? = some reason) (rest : List Cache) :
    trials h (cache :: rest) s = [trialOf h cache s] := by
  simp [trials, ht]

theorem trials_cons {cache : Cache} {s : σ} (ht : (trialOf h cache s).stop? = none)
    (rest : List Cache) :
    trials h (cache :: rest) s =
      trialOf h cache s :: trials h rest ((Command.roundTrip cache).run h s).state := by
  simp [trials, ht]

/-- Unless the program is stopped all of them have one. -/
theorem cache_trials {caches : List Cache} {s : σ}
    (hno : ∀ t ∈ trials h caches s, t.stop? = none) :
    (trials h caches s).map Trial.cache = caches := by
  induction caches generalizing s with
  | nil => rfl
  | cons cache rest ih =>
    have ht : (trialOf h cache s).stop? = none := hno _ List.mem_cons_self
    rw [trials_cons h ht] at hno ⊢
    rw [List.map_cons, ih (List.forall_mem_cons.mp hno).2]
    rfl

/-- No error of a round trip gets any further. A stop does, and then it is the last. -/
theorem run_checkEach (caches : List Cache) (s : σ) :
    let run := (Program.each Command.checkCache caches).run h s
    run.outcome = gathered (trials h caches s) ∧
      calls run.trace = (trials h caches s).flatMap Trial.calls := by
  induction caches generalizing s with
  | nil => exact ⟨rfl, rfl⟩
  | cons cache rest ih =>
    obtain ⟨houtcome, hcalls⟩ := ih ((Command.roundTrip cache).run h s).state
    rw [Program.run_each_cons]
    cases ht : (trialOf h cache s).stop? with
    | some reason =>
      rw [run_checkCache_stopped ht, trials_cons_stopped h ht, gathered_stopped ht]
      exact ⟨rfl, (List.append_nil _).symm⟩
    | none =>
      rw [run_checkCache ht, trials_cons h ht, gathered_cons ht, ← houtcome, List.flatMap_cons,
        ← hcalls]
      rw [Run.andThen_ok, Run.andThen_trace]
      generalize (Program.each Command.checkCache rest).run h
        ((Command.roundTrip cache).run h s).state = others
      obtain ⟨outcome, s', trace⟩ := others
      cases outcome <;> exact ⟨rfl, calls_append _ _⟩

/-- Nothing happens in a round trip that has its token but calls on the client. -/
theorem probe_only {cache : Cache} {allowed : Happening → Prop}
    (ha : ∀ call reply, allowed (.asked (.call cache.client call) reply)) (token : Text) :
    (Command.probe cache token).Only allowed :=
  (Program.Only.request (ha _)).bind fun _ => (Program.Only.request (ha _)).bind fun _ =>
    (Program.Only.request (ha _)).bind fun _ => .ite (.fail _) (.pure _)

theorem checkCache_tacit (cache : Cache) : (Command.checkCache cache).Only Happening.Tacit := by
  have htrip : (Command.roundTrip cache).Only Happening.Tacit :=
    (Program.Only.request fun _ => rfl).bind (probe_only fun _ _ => rfl)
  refine htrip.rescue.bind fun outcome => ?_
  cases outcome <;> exact .pure _

namespace Handler.Isolates

variable {h} {α τ : Type} {client : Nat} {h' : Handler τ} {same : σ → τ → Prop} {p : Program α}
  {s : σ} {s' : τ}

end Handler.Isolates

end CacheWiring
